import AgentShield.Server.ChainInput
import AgentShield.Storage.Schema

/-!
# The database of the tests

`MemoryDatabase` keeps each table in a dictionary and answers the fixed statements and
queries of the services, one branch for each text.  It does what the database does as long as
the database refuses nothing (`memory_database_refines_iff`), but it checks no constraint,
and takes nothing back.
-/

namespace AgentShield.Storage

open AgentShield.Lib AgentShield.Lib.Relational

/-! ## The branches of `execute` -/

/-- `str(value)`.  A float and a list are no key, and are left as they are. -/
def Value.str : Value → Value
  | null => .text "None"
  | int n => .text (toString n)
  | bool b => .text (if b = true then "True" else "False")
  | v => v

/-- The key under which a row is stored. -/
def slot (t : TableName) (r : Row) : List Value := t.primaryKey.map fun c => (r c).str

/-- `row.setdefault(column, value)`. -/
def setdefault (column : String) (v : Value) (d : Dict String Value) : Dict String Value :=
  match Dict.get? d column with
  | some _ => d
  | none => Dict.set d column v

/-- `row[column] = value`. -/
def Row.put (r : Row) (column : String) (v : Value) : Row := Function.update r column v

/-- `args[i]`. -/
def argument (args : List Value) (i : Nat) : Value := args.getD i .null

/-- `args[-1]`. -/
def lastArgument (args : List Value) : Value := args.getLastD .null

def Sql.idiom (args : List Value) : Sql → Idiom TableName (List Value) Row
  | insertOrganizations =>
      let rowArgs := if args.length = 3 then args ++ [argument args 2] else args
      .setdefault .organizations (.of (["org_id", "name", "created_at", "updated_at"].zip rowArgs))
  | insertAgents =>
      .store .agents (.of (["agent_id", "org_id", "display_name", "responsible_entity",
        "integration_type", "status", "created_at", "updated_at"].zip args))
  | insertAgentKeys =>
      .store .agentKeys (.of (["kid", "agent_id", "public_key", "algorithm", "status",
        "created_at", "retired_at"].zip args))
  | setAgentStatus =>
      .modifyAt .agents [(lastArgument args).str] fun r =>
        (r.put "status" (argument args 0)).put "updated_at" (argument args 1)
  | setIntegrationType =>
      .modifyAt .agents [(lastArgument args).str] fun r =>
        (r.put "integration_type" (argument args 0)).put "updated_at" (argument args 1)
  | setKeyStatus =>
      .modifyAt .agentKeys [(lastArgument args).str] fun r =>
        (r.put "status" (argument args 0)).put "retired_at" (argument args 1)
  | deleteAgentKeys => .deleteWhere .agentKeys fun r => r "agent_id" = argument args 0
  | deleteAgents => .pop .agents [(argument args 0).str]
  | insertOperations | insertGovernedOperations =>
      .store .operations
        (.of ((operationColumns ++ ["correlation_id", "run_id", "phase"]).zip args))
  | insertReceipts =>
      .store .receipts (.of (["receipt_id", "operation_id", "r2_receipt_key",
        "created_at"].zip args))
  | insertInterventionLog =>
      .append .interventionLog (.of (["verdict_id", "record_id", "correlation_id", "run_id",
        "decision", "step_index", "triggered_rule_id", "tokens_in", "tokens_out", "model_id",
        "served_via", "latency_ms", "created_at"].zip args))
  | insertGovernanceVerdicts =>
      .store .governanceVerdicts (.of (["verdict_id", "record_id", "correlation_id", "run_id",
        "org_id", "agent_id", "decision", "risk_score", "latency_ms", "prevented_loss",
        "r2_verdict_key", "created_at"].zip args))
  | setResolution =>
      .modify .governanceVerdicts [(lastArgument args).str] fun r =>
        (r.put "resolution" (argument args 0)).put "resolved_at" (argument args 1)
  | insertEpochs =>
      .store .epochs (.of (["epoch_id", "org_id", "start_time", "end_time", "root_hash",
        "leaf_count", "r2_epoch_key", "created_at"].zip args))
  | insertExports =>
      .store .exports (.of (["export_id", "org_id", "status", "query_params", "r2_export_key",
        "created_at", "completed_at"].zip args))
  | insertUsers =>
      let row := ["user_id", "email", "password_hash", "password_pepper_kid", "name",
        "created_at"].zip args
      .store .users (.of (row |> setdefault "status" (.text "active")
        |> setdefault "email_verified_at" .null |> setdefault "failed_login_count" (.int 0)
        |> setdefault "locked_until" .null |> setdefault "totp_enabled" (.bool false)
        |> setdefault "updated_at" (Row.of row "created_at") |> setdefault "last_login_at" .null))
  | insertMemberships =>
      .store .memberships (.of (["user_id", "org_id", "role", "invited_by",
        "joined_at"].zip args))
  | setFailedLogin =>
      .modify .users [(lastArgument args).str] fun r =>
        let counted := ((r.put "failed_login_count" (argument args 0)).put "locked_until"
          (argument args 1)).put "updated_at" (argument args 2)
        if argument args 1 = .null then counted else counted.put "status" (.text "locked")
  | resetFailedLogin =>
      .modify .users [(lastArgument args).str] fun r =>
        let cleared := (r.put "failed_login_count" (.int 0)).put "locked_until" .null
        let unlocked :=
          if cleared "status" = .text "locked" then cleared.put "status" (.text "active")
          else cleared
        (unlocked.put "last_login_at" (argument args 0)).put "updated_at" (argument args 0)
  | setPasswordHash =>
      .modify .users [(lastArgument args).str] fun r =>
        ((r.put "password_hash" (argument args 0)).put "password_pepper_kid"
          (argument args 1)).put "updated_at" (argument args 2)
  | setTotpEnabled =>
      .modify .users [(lastArgument args).str] fun r =>
        (r.put "totp_enabled" (argument args 0)).put "updated_at" (argument args 1)
  | setEmailVerified =>
      .modify .users [(lastArgument args).str] fun r =>
        (r.put "email_verified_at" (argument args 0)).put "updated_at" (argument args 0)
  | setRole =>
      .modify .memberships [(argument args 1).str, (argument args 2).str] fun r =>
        r.put "role" (argument args 0)
  | insertSessions =>
      .store .sessions (.of (setdefault "revoked_at" .null (["session_id", "user_id",
        "token_hash", "csrf_token", "ip", "user_agent", "created_at", "last_used_at",
        "expires_at", "revoked_at"].zip args)))
  | touchSession =>
      .modify .sessions [(lastArgument args).str] fun r =>
        r.put "last_used_at" (argument args 0)
  | rotateToken =>
      .modify .sessions [(lastArgument args).str] fun r =>
        ((r.put "token_hash" (argument args 0)).put "csrf_token" (argument args 1)).put
          "last_used_at" (argument args 2)
  | revokeSession =>
      .modify .sessions [(lastArgument args).str] fun r => r.put "revoked_at" (argument args 0)
  | revokeAllForUser =>
      .modifyWhere .sessions (fun r => r "user_id" = argument args 1 ∧ r "revoked_at" = .null)
        fun r => r.put "revoked_at" (argument args 0)
  | insertTokens table =>
      .store (.tokens table) (.of (Dict.set (["token_hash", "user_id", "expires_at",
        "created_at"].zip args) "consumed_at" .null))
  | consumeToken table =>
      .modify (.tokens table) [(lastArgument args).str] fun r =>
        r.put "consumed_at" (argument args 0)
  | insertInvites =>
      .store .invites (.of (Dict.set (["invite_id", "org_id", "email", "role", "invited_by",
        "expires_at", "created_at", "token_hash"].zip args) "consumed_at" .null))
  | consumeInvite =>
      .modify .invites [(lastArgument args).str] fun r => r.put "consumed_at" (argument args 0)
  | insertTotpCredentials =>
      .store .totpCredentials (.of (setdefault "last_used_at" .null (["user_id",
        "secret_encrypted", "active_kid", "recovery_codes_hash", "enabled_at",
        "last_used_at"].zip args)))
  | setRecoveryCodes =>
      .modify .totpCredentials [(lastArgument args).str] fun r =>
        (r.put "recovery_codes_hash" (argument args 0)).put "last_used_at" (argument args 1)
  | deleteTotpCredentials => .pop .totpCredentials [(argument args 0).str]
  | insertApiKeys =>
      .store .apiKeys (.of (setdefault "revoked_at" .null (setdefault "last_used_at" .null
        (["api_key_id", "org_id", "agent_id", "agent_id_allowlist", "token_hash", "prefix",
          "display_name", "created_by", "created_at", "expires_at", "last_used_at",
          "revoked_at"].zip args))))
  | touchApiKey =>
      .modify .apiKeys [(lastArgument args).str] fun r => r.put "last_used_at" (argument args 0)
  | revokeApiKey =>
      .modify .apiKeys [(lastArgument args).str] fun r => r.put "revoked_at" (argument args 0)
  | insertAuditLogAuth =>
      .append .auditLogAuth (.of (["audit_id", "user_id", "org_id", "event", "ip",
        "user_agent", "detail", "created_at"].zip args))

/-! ### Rows -/

namespace Row

variable (r : Row)

theorem put_eq (c : String) (v : Value) : r.put c v = r.assign [(c, v)] := by
  funext c'
  by_cases hc : c = c'
  · simp [put, assign, Dict.get?, hc]
  · have hOther : c' ≠ c := fun hSame => hc hSame.symm
    simp [put, assign, Dict.get?, hc, Function.update_of_ne hOther]

/-- A further column of an update. -/
theorem assign_put {sets : Dict String Value} {c : String} (h : Dict.get? sets c = none)
    (v : Value) : (r.assign sets).put c v = r.assign (sets ++ [(c, v)]) := by
  induction sets with
  | nil =>
      show r.put c v = r.assign [(c, v)]
      exact r.put_eq c v
  | cons e sets ih =>
      obtain ⟨c₀, v₀⟩ := e
      have hNe : ¬ c₀ = c := by
        intro hSame
        simp [Dict.get?, hSame] at h
      have hRest : Dict.get? sets c = none := by simpa [Dict.get?, hNe] using h
      funext c'
      have hTail := congrFun (ih hRest) c'
      by_cases hc' : c' = c
      · subst hc'
        simpa [put, assign, Dict.get?, hNe] using hTail
      · by_cases hc₀ : c₀ = c'
        · simp [put, assign, Dict.get?, hc₀, Function.update_of_ne hc']
        · simpa [put, assign, Dict.get?, hc₀, Function.update_of_ne hc'] using hTail

theorem put_two {c c' : String} (h : c ≠ c') (v v' : Value) :
    (r.put c v).put c' v' = r.assign [(c, v), (c', v')] := by
  have hNew : Dict.get? [(c, v)] c' = none := by simp [Dict.get?, h]
  rw [r.put_eq c v, r.assign_put hNew]
  rfl

theorem put_three {c c' c'' : String} (h : c ≠ c') (h' : c ≠ c'') (h'' : c' ≠ c'')
    (v v' v'' : Value) :
    ((r.put c v).put c' v').put c'' v'' = r.assign [(c, v), (c', v'), (c'', v'')] := by
  have hNew : Dict.get? [(c, v), (c', v')] c'' = none := by simp [Dict.get?, h', h'']
  rw [r.put_two h, r.assign_put hNew]
  rfl

/-- A column that is set to what it was. -/
theorem assign_keep (d d' : Dict String Value) {c : String} (h : Dict.get? d' c = none) :
    r.assign (d ++ (c, r c) :: d') = r.assign (d ++ d') := by
  funext c'
  induction d with
  | nil =>
      by_cases hc : c = c'
      · subst hc
        simp [assign, Dict.get?, h]
      · simp [assign, Dict.get?, hc]
  | cons e d ih =>
      obtain ⟨c₀, v₀⟩ := e
      by_cases hc : c₀ = c'
      · simp [assign, Dict.get?, hc]
      · simpa [assign, Dict.get?, hc] using ih

/-- The order of the columns does not matter. -/
theorem assign_shift (d mid d' : Dict String Value) (c : String) (v : Value)
    (h : ((d ++ (c, v) :: (mid ++ d')).map Prod.fst).Nodup) :
    r.assign (d ++ (c, v) :: (mid ++ d')) = r.assign (d ++ mid ++ (c, v) :: d') := by
  have hFront : (d ++ (c, v) :: (mid ++ d')).Perm ((c, v) :: (d ++ (mid ++ d'))) :=
    List.perm_middle
  have hBack : (d ++ mid ++ (c, v) :: d').Perm ((c, v) :: (d ++ mid ++ d')) := List.perm_middle
  have hPerm := hFront.trans ((List.append_assoc d mid d') ▸ hBack.symm)
  funext c'
  exact congrArg (fun found : Option Value => found.getD (r c')) (Dict.get?_perm h hPerm c')

/-- A row of values is an update of the row of nulls. -/
theorem of_eq_assign (d : Dict String Value) : of d = assign (fun _ => .null) d := rfl

end Row

/-! ### Keys -/

variable {lower : String → String}

theorem isText_str {v : Value} (h : v.isText = true) : v.str = v := by
  cases v with
  | text s => rfl
  | _ => cases h

theorem slot_of_primary (t : TableName) (r : Row) (k : List Value)
    (h : ((schema lower) t).primary r = some k) : slot t r = k := by
  have hKey : textKey t.primaryKey r = some k := h
  unfold textKey at hKey
  by_cases hText : t.primaryKey.all (fun c => (r c).isText) = true
  · rw [if_pos hText] at hKey
    rw [← Option.some.inj hKey]
    exact List.map_congr_left fun c hc => isText_str (List.all_eq_true.1 hText c hc)
  · rw [if_neg hText] at hKey
    cases hKey

theorem keyed_text {t : TableName} {r : Row} (h : (schema lower).Keyed t r) {c : String}
    (hc : c ∈ t.primaryKey) : (r c).str = r c := by
  have hKey : (textKey t.primaryKey r).isSome = true := h _ List.mem_cons_self
  unfold textKey at hKey
  by_cases hText : t.primaryKey.all (fun c => (r c).isText) = true
  · exact isText_str (List.all_eq_true.1 hText c hc)
  · rw [if_neg hText] at hKey
    cases hKey

theorem whereIs_text {c s : String} {r : Row} : whereIs c (.text s) r = true ↔ r c = .text s := by
  simp [whereIs]

/-- The key of a row in a table with a key of one column. -/
theorem slot_eq_iff {t : TableName} {c : String} (hKey : t.primaryKey = [c]) {r : Row}
    (h : (schema lower).Keyed t r) (s : String) :
    slot t r = [.text s] ↔ whereIs c (.text s) r = true := by
  have hText : (r c).str = r c := keyed_text h (by rw [hKey]; exact List.mem_cons_self)
  rw [whereIs_text]
  simp [slot, hKey, hText]

/-- The key of a membership. -/
theorem membership_iff {r : Row} (h : (schema lower).Keyed .memberships r) (user org : String) :
    slot .memberships r = [.text user, .text org] ↔
      (whereIs "user_id" (.text user) r && whereIs "org_id" (.text org) r) = true := by
  have hUser : (r "user_id").str = r "user_id" := keyed_text h (by decide)
  have hOrg : (r "org_id").str = r "org_id" := keyed_text h (by decide)
  show [(r "user_id").str, (r "org_id").str] = [.text user, .text org] ↔ _
  rw [hUser, hOrg, Bool.and_eq_true, whereIs_text, whereIs_text]
  simp

/-- The sequence number of an operation is a number. -/
theorem keyed_seq {r : Row} (h : (schema lower).Keyed .operations r) :
    ∃ n, r "seq_no" = .int n := by
  have hKey : (sequenceKey r).isSome = true := h _ (List.mem_cons_of_mem _ List.mem_cons_self)
  unfold sequenceKey at hKey
  by_cases hBoth : (r "agent_id").isText = true ∧ (r "seq_no").isInt = true
  · cases hSeq : r "seq_no" with
    | int n => exact ⟨n, rfl⟩
    | _ =>
        rw [hSeq] at hBoth
        exact absurd hBoth.2 nofun
  · rw [if_neg hBoth] at hKey
    cases hKey

/-- An update of other columns leaves the key alone. -/
theorem slot_assign {t : TableName} (r : Row) {sets : Dict String Value}
    (h : ∀ c ∈ t.primaryKey, Dict.get? sets c = none) : slot t (r.assign sets) = slot t r := by
  refine List.map_congr_left fun c hc => ?_
  simp [Row.assign, h c hc]

/-- An update of the row under a key of one column. -/
theorem byKey {t : TableName} {c : String} (hKey : t.primaryKey = [c]) (s : String)
    {f : Row → Row} {sets : Row → Dict String Value} (hSame : ∀ r, f r = r.assign (sets r))
    (hOther : ∀ r, Dict.get? (sets r) c = none) :
    SameUpdate (schema lower) slot t (fun r => slot t r = [.text s]) f (whereIs c (.text s))
      fun r => r.assign (sets r) where
  chosen r h := slot_eq_iff hKey h s
  result r _ := hSame r
  slot r _ := by
    refine slot_assign r fun c' hc' => ?_
    rw [hKey, List.mem_singleton] at hc'
    rw [hc']
    exact hOther r

/-! ### What each branch does -/

theorem args_one {args : List Value} (h : fitAll [.text] args = true) :
    ∃ s, args = [.text s] := by
  obtain ⟨v, rest, rfl, hv, hRest⟩ := fitAll_cons h
  obtain ⟨s, rfl⟩ := fits_text hv
  rw [fitAll_nil hRest]
  exact ⟨s, rfl⟩

theorem args_two {p : ParamType} {args : List Value} (h : fitAll [p, .text] args = true) :
    ∃ a s, args = [a, .text s] := by
  obtain ⟨a, rest, rfl, -, hRest⟩ := fitAll_cons h
  obtain ⟨s, rfl⟩ := args_one hRest
  exact ⟨a, s, rfl⟩

theorem args_three {p q : ParamType} {args : List Value} (h : fitAll [p, q, .text] args = true) :
    ∃ a b s, args = [a, b, .text s] := by
  obtain ⟨a, rest, rfl, -, hRest⟩ := fitAll_cons h
  obtain ⟨b, s, rfl⟩ := args_two hRest
  exact ⟨a, b, s, rfl⟩

theorem args_four {p q r : ParamType} {args : List Value}
    (h : fitAll [p, q, r, .text] args = true) : ∃ a b c s, args = [a, b, c, .text s] := by
  obtain ⟨a, rest, rfl, -, hRest⟩ := fitAll_cons h
  obtain ⟨b, c, s, rfl⟩ := args_three hRest
  exact ⟨a, b, c, s, rfl⟩

theorem zip_more {columns : List String} {args : List Value} (more : List String)
    (h : args.length = columns.length) : (columns ++ more).zip args = columns.zip args := by
  have hZip : (columns ++ more).zip (args ++ []) = columns.zip args ++ more.zip [] :=
    List.zip_append h.symm
  simpa using hZip

/-- The default of a new column. -/
theorem setdefault_new {d : Dict String Value} {c : String} (h : Dict.get? d c = none)
    (v : Value) : setdefault c v d = d ++ [(c, v)] := by
  rw [setdefault, h]
  show Dict.set d c v = _
  exact Dict.set_of_notMem (Dict.get?_eq_none_iff.1 h) v

/-- The defaults of new columns, one after the other. -/
theorem setdefaults_new (d defaults : Dict String Value)
    (h : ((d ++ defaults).map Prod.fst).Nodup) :
    defaults.foldl (fun d e => setdefault e.1 e.2 d) d = d ++ defaults := by
  induction defaults generalizing d with
  | nil => rw [List.append_nil, List.foldl_nil]
  | cons e defaults ih =>
      have hNone : Dict.get? d e.1 = none := by
        rw [Dict.get?_eq_none_iff]
        intro hMem
        rw [List.map_append] at h
        exact (List.nodup_append.1 h).2.2 _ hMem _ List.mem_cons_self rfl
      have hShift : d ++ e :: defaults = (d ++ [e]) ++ defaults := by simp
      rw [hShift] at h
      rw [List.foldl_cons, setdefault_new hNone, hShift]
      exact ih (d ++ [e]) h

/-- The default of a column for which there is no argument. -/
theorem setdefault_zip (columns : List String) {c : String} (more : List String)
    {args : List Value} (h : args.length = columns.length) (hNew : c ∉ columns) (v : Value) :
    setdefault c v ((columns ++ c :: more).zip args) =
      (columns ++ c :: more).zip (args ++ [v]) := by
  have hKeys : (columns.zip args).map Prod.fst = columns := List.map_fst_zip (Nat.le_of_eq h.symm)
  have hNone : Dict.get? (columns.zip args) c = none := by
    rw [Dict.get?_eq_none_iff, hKeys]
    exact hNew
  rw [zip_more (c :: more) h, setdefault_new hNone, List.zip_append h.symm, List.zip_cons_cons,
    List.zip_nil_right]

/-- `status` moves to `locked` where a lock is set. -/
theorem failedLogin_same (r : Row) (count lockedUntil now : Value) :
    (if lockedUntil = .null then
        ((r.put "failed_login_count" count).put "locked_until" lockedUntil).put "updated_at" now
      else (((r.put "failed_login_count" count).put "locked_until" lockedUntil).put "updated_at"
        now).put "status" (.text "locked")) =
      r.assign [("failed_login_count", count), ("locked_until", lockedUntil),
        ("status", if lockedUntil = .null then r "status" else .text "locked"),
        ("updated_at", now)] := by
  have hCounted : ((r.put "failed_login_count" count).put "locked_until" lockedUntil).put
      "updated_at" now = r.assign [("failed_login_count", count), ("locked_until", lockedUntil),
        ("updated_at", now)] :=
    r.put_three (by decide) (by decide) (by decide) count lockedUntil now
  rw [hCounted]
  by_cases hLocked : lockedUntil = .null
  · rw [if_pos hLocked, if_pos hLocked]
    have hNew : Dict.get? [("updated_at", now)] "status" = none := by simp [Dict.get?]
    exact (r.assign_keep [("failed_login_count", count), ("locked_until", lockedUntil)] _
      hNew).symm
  · rw [if_neg hLocked, if_neg hLocked, r.assign_put (by simp [Dict.get?])]
    exact r.assign_shift [("failed_login_count", count), ("locked_until", lockedUntil)]
      [("status", .text "locked")] [] "updated_at" now (show ["failed_login_count",
        "locked_until", "updated_at", "status"].Nodup by decide)

/-- `status` goes back from `locked`. -/
theorem resetLogin_same (r : Row) (now : Value) :
    (((if ((r.put "failed_login_count" (.int 0)).put "locked_until" .null) "status" =
          .text "locked" then
        ((r.put "failed_login_count" (.int 0)).put "locked_until" .null).put "status"
          (.text "active")
      else (r.put "failed_login_count" (.int 0)).put "locked_until" .null).put "last_login_at"
        now).put "updated_at" now) =
      r.assign [("failed_login_count", .int 0), ("locked_until", .null),
        ("status", if r "status" = .text "locked" then .text "active" else r "status"),
        ("last_login_at", now), ("updated_at", now)] := by
  have hCleared : (r.put "failed_login_count" (.int 0)).put "locked_until" .null =
      r.assign [("failed_login_count", .int 0), ("locked_until", .null)] :=
    r.put_two (by decide) (.int 0) .null
  have hStatus : r.assign [("failed_login_count", .int 0), ("locked_until", .null)] "status" =
      r "status" := by simp [Row.assign, Dict.get?]
  rw [hCleared, hStatus]
  by_cases hLocked : r "status" = .text "locked"
  · rw [if_pos hLocked, if_pos hLocked, r.assign_put (by simp [Dict.get?]),
      r.assign_put (by simp [Dict.get?]), r.assign_put (by simp [Dict.get?])]
    rfl
  · rw [if_neg hLocked, if_neg hLocked, r.assign_put (by simp [Dict.get?]),
      r.assign_put (by simp [Dict.get?])]
    have hNew : Dict.get? [("last_login_at", now), ("updated_at", now)] "status" = none := by
      simp [Dict.get?]
    exact (r.assign_keep [("failed_login_count", .int 0), ("locked_until", .null)] _ hNew).symm

/-- The row of a new user, with the defaults that the statement spells out. -/
theorem insertUsers_same (a b c d e f : Value) :
    Row.of ([("user_id", a), ("email", b), ("password_hash", c), ("password_pepper_kid", d),
      ("name", e), ("created_at", f), ("status", .text "active"), ("email_verified_at", .null),
      ("failed_login_count", .int 0), ("locked_until", .null), ("totp_enabled", .bool false),
      ("updated_at", f), ("last_login_at", .null)]) =
    Row.of [("user_id", a), ("email", b), ("password_hash", c), ("password_pepper_kid", d),
      ("name", e), ("status", .text "active"), ("email_verified_at", .null),
      ("failed_login_count", .int 0), ("locked_until", .null), ("totp_enabled", .bool false),
      ("created_at", f), ("updated_at", f), ("last_login_at", .null)] := by
  rw [Row.of_eq_assign, Row.of_eq_assign]
  exact Row.assign_shift _ [("user_id", a), ("email", b), ("password_hash", c),
    ("password_pepper_kid", d), ("name", e)] [("status", .text "active"),
      ("email_verified_at", .null), ("failed_login_count", .int 0), ("locked_until", .null),
      ("totp_enabled", .bool false)] [("updated_at", f), ("last_login_at", .null)] "created_at" f
    (show ["user_id", "email", "password_hash", "password_pepper_kid", "name", "created_at",
      "status", "email_verified_at", "failed_login_count", "locked_until", "totp_enabled",
      "updated_at", "last_login_at"].Nodup by decide)

/-- The columns of a new key for which there is no argument. -/
theorem insertApiKeys_implements {args : List Value}
    (typed : fitAll Sql.insertApiKeys.params args = true) :
    Implements (schema lower) slot (Sql.insertApiKeys.idiom args)
      (Sql.insertApiKeys.command args) := by
  have hLength := length_of_fitAll typed
  refine .store (congrArg Row.of ?_)
  have hUsed := setdefault_zip ["api_key_id", "org_id", "agent_id", "agent_id_allowlist",
    "token_hash", "prefix", "display_name", "created_by", "created_at", "expires_at"]
    ["revoked_at"] hLength (show "last_used_at" ∉ _ by decide) .null
  have hRevoked := @setdefault_zip ["api_key_id", "org_id", "agent_id",
    "agent_id_allowlist", "token_hash", "prefix", "display_name", "created_by",
    "created_at", "expires_at", "last_used_at"] _ [] (args ++ [.null])
    (by rw [List.length_append, hLength]; rfl) (show "revoked_at" ∉ _ by decide) .null
  show setdefault "revoked_at" .null (setdefault "last_used_at" .null _) = _
  exact (congrArg _ hUsed).trans (hRevoked.trans (by rw [List.append_assoc]; rfl))

/-- The row of a token, with `consumed_at` in another place. -/
theorem insertTokens_implements {table : TokenTable} {args : List Value}
    (typed : fitAll (Sql.insertTokens table).params args = true) :
    Implements (schema lower) slot ((Sql.insertTokens table).idiom args)
      ((Sql.insertTokens table).command args) := by
  obtain ⟨a, rest, rfl, -, hRest⟩ := fitAll_cons typed
  obtain ⟨b, rest, rfl, -, hRest⟩ := fitAll_cons hRest
  obtain ⟨c, rest, rfl, -, hRest⟩ := fitAll_cons hRest
  obtain ⟨d, rest, rfl, -, hRest⟩ := fitAll_cons hRest
  obtain rfl := fitAll_nil hRest
  exact .store (Row.assign_shift (fun _ => .null) [("token_hash", a), ("user_id", b),
    ("expires_at", c)] [("consumed_at", .null)] [] "created_at" d
    (show ["token_hash", "user_id", "expires_at", "created_at", "consumed_at"].Nodup by
      decide))

/-- The row of an invite, with `consumed_at` in another place. -/
theorem insertInvites_implements {args : List Value}
    (typed : fitAll Sql.insertInvites.params args = true) :
    Implements (schema lower) slot (Sql.insertInvites.idiom args)
      (Sql.insertInvites.command args) := by
  obtain ⟨a, rest, rfl, -, hRest⟩ := fitAll_cons typed
  obtain ⟨b, rest, rfl, -, hRest⟩ := fitAll_cons hRest
  obtain ⟨c, rest, rfl, -, hRest⟩ := fitAll_cons hRest
  obtain ⟨d, rest, rfl, -, hRest⟩ := fitAll_cons hRest
  obtain ⟨e, rest, rfl, -, hRest⟩ := fitAll_cons hRest
  obtain ⟨f, rest, rfl, -, hRest⟩ := fitAll_cons hRest
  obtain ⟨g, rest, rfl, -, hRest⟩ := fitAll_cons hRest
  obtain ⟨i, rest, rfl, -, hRest⟩ := fitAll_cons hRest
  obtain rfl := fitAll_nil hRest
  exact .store (Row.assign_shift (fun _ => .null) [("invite_id", a), ("org_id", b),
    ("email", c), ("role", d), ("invited_by", e), ("expires_at", f)]
    [("created_at", g), ("token_hash", i)] [] "consumed_at" .null
    (show ["invite_id", "org_id", "email", "role", "invited_by", "expires_at", "consumed_at",
      "created_at", "token_hash"].Nodup by decide)).symm

/-- The row of a user, with the defaults of the columns that have no argument, is the same on
both sides, and is stored under the user's id. -/
theorem insertUsers_implements {args : List Value}
    (typed : fitAll Sql.insertUsers.params args = true) :
    Implements (schema lower) slot (Sql.insertUsers.idiom args)
      (Sql.insertUsers.command args) := by
  obtain ⟨a, rest, rfl, -, hRest⟩ := fitAll_cons typed
  obtain ⟨b, rest, rfl, -, hRest⟩ := fitAll_cons hRest
  obtain ⟨c, rest, rfl, -, hRest⟩ := fitAll_cons hRest
  obtain ⟨d, rest, rfl, -, hRest⟩ := fitAll_cons hRest
  obtain ⟨e, rest, rfl, -, hRest⟩ := fitAll_cons hRest
  obtain ⟨f, rest, rfl, -, hRest⟩ := fitAll_cons hRest
  obtain rfl := fitAll_nil hRest
  have hDefaults := setdefaults_new [("user_id", a), ("email", b), ("password_hash", c),
    ("password_pepper_kid", d), ("name", e), ("created_at", f)]
    [("status", .text "active"), ("email_verified_at", .null),
      ("failed_login_count", .int 0), ("locked_until", .null),
      ("totp_enabled", .bool false), ("updated_at", f), ("last_login_at", .null)]
    (show ["user_id", "email", "password_hash", "password_pepper_kid", "name", "created_at",
      "status", "email_verified_at", "failed_login_count", "locked_until", "totp_enabled",
      "updated_at", "last_login_at"].Nodup by decide)
  have hCreated : Row.of [("user_id", a), ("email", b), ("password_hash", c),
      ("password_pepper_kid", d), ("name", e), ("created_at", f)] "created_at" = f := by
    simp [Row.of, Dict.get?]
  simp only [List.foldl_cons, List.foldl_nil, List.cons_append, List.nil_append] at hDefaults
  refine .store ?_
  simp only [List.zip_cons_cons, List.zip_nil_right, hCreated, hDefaults]
  exact insertUsers_same a b c d e f

theorem setRole_implements {args : List Value}
    (typed : fitAll Sql.setRole.params args = true) :
    Implements (schema lower) slot (Sql.setRole.idiom args)
      (Sql.setRole.command args) := by
  obtain ⟨a, rest, rfl, -, hRest⟩ := fitAll_cons typed
  obtain ⟨b, rest, rfl, hb, hRest⟩ := fitAll_cons hRest
  obtain ⟨user, rfl⟩ := fits_text hb
  obtain ⟨org, rfl⟩ := args_one hRest
  refine .modify ⟨fun r h => membership_iff h user org, fun r _ => r.put_eq _ a,
    fun r _ => slot_assign r fun c hc => ?_⟩
  rcases List.mem_cons.1 hc with rfl | hc
  · rfl
  · rw [List.mem_singleton.1 hc]
    rfl

theorem revokeAllForUser_implements {args : List Value}
    (typed : fitAll Sql.revokeAllForUser.params args = true) :
    Implements (schema lower) slot (Sql.revokeAllForUser.idiom args)
      (Sql.revokeAllForUser.command args) := by
  obtain ⟨a, s, rfl⟩ := args_two typed
  refine .modifyWhere ⟨fun r _ => ?_, fun r _ => r.put_eq _ a, fun r _ => slot_assign r ?_⟩
  · show decide (r "user_id" = .text s ∧ r "revoked_at" = .null) = true ↔
      (whereIs "user_id" (.text s) r && decide (r "revoked_at" = .null)) = true
    rw [decide_eq_true_iff, Bool.and_eq_true, whereIs_text, decide_eq_true_iff]
  · intro c hc
    rw [List.mem_singleton.1 hc]
    rfl

theorem idiom_implements (st : Statement) :
    Implements (schema lower) slot (st.text.idiom st.args) (st.text.command st.args) := by
  obtain ⟨text, args, typed⟩ := st
  have hLength := length_of_fitAll typed
  cases text with
  | insertAgents | insertAgentKeys | insertGovernedOperations | insertReceipts
  | insertGovernanceVerdicts | insertEpochs | insertExports | insertMemberships =>
      exact .store rfl
  | insertInterventionLog | insertAuditLogAuth => exact .append rfl
  | insertOrganizations =>
      obtain ⟨a, rest, rfl, -, hRest⟩ := fitAll_cons typed
      obtain ⟨b, rest, rfl, -, hRest⟩ := fitAll_cons hRest
      obtain ⟨c, rest, rfl, -, hRest⟩ := fitAll_cons hRest
      obtain rfl := fitAll_nil hRest
      exact .setdefault rfl
  | insertOperations => exact .store (congrArg Row.of (zip_more _ hLength))
  | insertSessions =>
      exact .store (congrArg Row.of (setdefault_zip ["session_id", "user_id",
        "token_hash", "csrf_token", "ip", "user_agent", "created_at", "last_used_at",
        "expires_at"] [] hLength (by decide) .null))
  | insertTotpCredentials =>
      exact .store (congrArg Row.of (setdefault_zip ["user_id", "secret_encrypted",
        "active_kid", "recovery_codes_hash", "enabled_at"] [] hLength (by decide) .null))
  | insertApiKeys => exact insertApiKeys_implements typed
  | insertTokens table => exact insertTokens_implements typed
  | insertInvites => exact insertInvites_implements typed
  | setAgentStatus | setIntegrationType | setKeyStatus =>
      obtain ⟨a, b, s, rfl⟩ := args_three typed
      exact .modifyAt (byKey rfl s (fun r => r.put_two (by decide) a b) fun r => rfl)
  | deleteAgents | deleteTotpCredentials =>
      obtain ⟨s, rfl⟩ := args_one typed
      exact .pop fun r h => slot_eq_iff rfl h s
  | deleteAgentKeys =>
      obtain ⟨s, rfl⟩ := args_one typed
      exact .deleteWhere fun r _ => decide_eq_true_iff.trans whereIs_text.symm
  | setResolution | setTotpEnabled | setRecoveryCodes =>
      obtain ⟨a, b, s, rfl⟩ := args_three typed
      exact .modify (byKey rfl s (fun r => r.put_two (by decide) a b) fun r => rfl)
  | setEmailVerified =>
      obtain ⟨a, s, rfl⟩ := args_two typed
      exact .modify (byKey rfl s (fun r => r.put_two (by decide) a a) fun r => rfl)
  | touchSession | revokeSession | consumeToken | consumeInvite | touchApiKey | revokeApiKey =>
      obtain ⟨a, s, rfl⟩ := args_two typed
      exact .modify (byKey rfl s (fun r => r.put_eq _ a) fun r => rfl)
  | setPasswordHash | rotateToken =>
      obtain ⟨a, b, c, s, rfl⟩ := args_four typed
      exact .modify (byKey rfl s
        (fun r => r.put_three (by decide) (by decide) (by decide) a b c) fun r => rfl)
  | setFailedLogin =>
      obtain ⟨a, b, c, s, rfl⟩ := args_four typed
      exact .modify (byKey rfl s (fun r => failedLogin_same r a b c) fun r => rfl)
  | resetFailedLogin =>
      obtain ⟨a, s, rfl⟩ := args_two typed
      exact .modify (byKey rfl s (fun r => resetLogin_same r a) fun r => rfl)
  | setRole => exact setRole_implements typed
  | revokeAllForUser => exact revokeAllForUser_implements typed
  | insertUsers => exact insertUsers_implements typed
/-! ## The branches of `fetchrow` and `fetch` -/

/-- Where the rows are looked up: by their key where the shelf has one, by a search where it
has not, and by the largest number for the head of a chain. -/
def Select.lookup (lower : String → String) (args : List Value) :
    Select → Lookup TableName (List Value) Row
  | agent => .get .agents [(argument args 0).str] fun r => r "org_id" = argument args 1
  | agentKey => .get .agentKeys [(argument args 0).str] fun r => r "agent_id" = argument args 1
  | publicKey => .get .agentKeys [(argument args 0).str] fun _ => true
  | latestOperation =>
      .best .operations (fun r => r "agent_id" = argument args 0) fun r => (r "seq_no").asInt
  | operationAt =>
      .first .operations fun r =>
        r "agent_id" = argument args 0 ∧ (r "seq_no").str = (argument args 1).str
  | operation =>
      .get .operations [(argument args 0).str] fun r => r "org_id" = argument args 1
  | receipt => .first .receipts fun r => r "operation_id" = argument args 0
  | verdictOfRecord => .first .governanceVerdicts fun r => r "record_id" = argument args 0
  | verdict =>
      .get .governanceVerdicts [(argument args 0).str] fun r => r "org_id" = argument args 1
  | exportById => .get .exports [(argument args 0).str] fun r => r "org_id" = argument args 1
  | userByEmail => .first .users (emailIs lower (argument args 0))
  | userById => .get .users [(argument args 0).str] fun _ => true
  | failedLoginCount => .get .users [(argument args 0).str] fun _ => true
  | sessionByToken => .first .sessions fun r => r "token_hash" = argument args 0
  | sessionById => .get .sessions [(argument args 0).str] fun _ => true
  | role => .get .memberships [(argument args 0).str, (argument args 1).str] fun _ => true
  | token table => .get (.tokens table) [(argument args 0).str] fun _ => true
  | invite => .first .invites fun r => r "token_hash" = argument args 0
  | totpCredential => .get .totpCredentials [(argument args 0).str] fun _ => true
  | apiKey => .first .apiKeys fun r => r "token_hash" = argument args 0
  | agents => .all .agents fun _ => true
  | agentIds => .all .agents fun r => r "org_id" = argument args 0
  | agentKeys => .all .agentKeys fun r => r "agent_id" = argument args 0
  | operations => .all .operations fun _ => true
  | interventionLog => .all .interventionLog fun _ => true
  | governanceVerdicts => .all .governanceVerdicts fun _ => true
  | epochs => .all .epochs fun _ => true
  | exports => .all .exports fun _ => true
  | users => .all .users fun _ => true
  | sessionsOfUser => .all .sessions fun r => r "user_id" = argument args 0
  | membershipsOfUser =>
      -- by the first half of the key of the dictionary
      .sorted .memberships (fun r => (r "user_id").str = argument args 0) fun r =>
        (r "joined_at").asInt
  | apiKeysOfOrg => .all .apiKeys fun r => r "org_id" = argument args 0

/-- What is handed out of a row: all of it, but for a few texts. -/
def Select.view : Select → Row → Row
  | publicKey => .only ["public_key", "status"]
  | latestOperation => .only ["chain_hash", "seq_no"]
  | operationAt => .only ["chain_hash"]
  | failedLoginCount => .only ["failed_login_count"]
  | role => .only ["role"]
  | _ => id

theorem columns_view (text : Select) (args : List Value) (r : Row) :
    (text.query lower args).columns (text.view r) = (text.query lower args).columns r := by
  cases text <;> first | rfl | exact Row.only_only _ r

/-- A number is told by its decimal text. -/
theorem int_str {n m : Int} (h : (Value.int n).str = (Value.int m).str) : n = m := by
  have hText : toString n = toString m := Value.text.inj h
  exact Server.ChainInput.toString_injective (congrArg String.toList hText)

/-- The test of a column against a text. -/
theorem column_iff {r : Row} {c s : String} :
    decide (r c = .text s) = true ↔ whereIs c (.text s) r = true := by
  rw [decide_eq_true_iff, whereIs_text]

/-- A row under its key that passes a test of another column. -/
theorem get_iff {t : TableName} {c c' : String} (hKey : t.primaryKey = [c]) {r : Row}
    (h : (schema lower).Keyed t r) (s s' : String) :
    slot t r = [.text s] ∧ decide (r c' = .text s') = true ↔
      (whereIs c (.text s) r && whereIs c' (.text s') r) = true := by
  rw [Bool.and_eq_true, slot_eq_iff hKey h, column_iff]

theorem lookup_gives (q : Question) :
    Gives (schema lower) slot (q.text.lookup lower q.args) (q.text.query lower q.args) := by
  obtain ⟨text, args, typed⟩ := q
  cases text with
  | agents | operations | interventionLog | governanceVerdicts | epochs | exports | users =>
      exact .all fun _ _ => Iff.rfl
  | agent | agentKey | operation | verdict | exportById =>
      obtain ⟨a, s, rfl⟩ := args_two typed
      obtain ⟨v, rest, hArgs, hv, -⟩ := fitAll_cons typed
      obtain ⟨s', rfl⟩ := fits_text hv
      obtain ⟨rfl, -⟩ := List.cons.inj hArgs
      exact .get fun r h => get_iff rfl h s' s
  | publicKey | userById | failedLoginCount | sessionById | token | totpCredential =>
      obtain ⟨s, rfl⟩ := args_one typed
      exact .get fun r h => (and_iff_left rfl).trans (slot_eq_iff rfl h s)
  | latestOperation =>
      obtain ⟨s, rfl⟩ := args_one typed
      exact .best (fun r _ => column_iff) fun r => rfl
  | receipt | verdictOfRecord | sessionByToken | invite | apiKey =>
      obtain ⟨s, rfl⟩ := args_one typed
      exact .first fun r _ => column_iff
  | userByEmail => exact .first fun _ _ => Iff.rfl
  | agentIds | agentKeys | sessionsOfUser | apiKeysOfOrg =>
      obtain ⟨s, rfl⟩ := args_one typed
      exact .all fun r _ => column_iff
  | operationAt =>
      obtain ⟨v, rest, rfl, hv, hRest⟩ := fitAll_cons typed
      obtain ⟨s, rfl⟩ := fits_text hv
      obtain ⟨v, rest, rfl, hv, hRest⟩ := fitAll_cons hRest
      obtain ⟨n, rfl⟩ := fits_int hv
      refine .first fun r h => ?_
      obtain ⟨m, hSeq⟩ := keyed_seq h
      show decide (r "agent_id" = .text s ∧ (r "seq_no").str = (Value.int n).str) = true ↔
        (whereIs "agent_id" (.text s) r && whereIs "seq_no" (.int n) r) = true
      rw [decide_eq_true_iff, Bool.and_eq_true, whereIs_text, hSeq]
      refine and_congr_right fun _ => ?_
      constructor
      · intro hText
        obtain rfl := int_str hText
        simp [whereIs, hSeq]
      · intro hWhere
        have hSame : Value.int m = Value.int n ∧ Value.int n ≠ .null := by
          simpa [whereIs, hSeq] using hWhere
        rw [hSame.1]
  | role =>
      obtain ⟨a, org, rfl⟩ := args_two typed
      obtain ⟨v, rest, hArgs, hv, -⟩ := fitAll_cons typed
      obtain ⟨user, rfl⟩ := fits_text hv
      obtain ⟨rfl, -⟩ := List.cons.inj hArgs
      exact .get fun r h => (and_iff_left rfl).trans (membership_iff h user org)
  | membershipsOfUser =>
      obtain ⟨s, rfl⟩ := args_one typed
      refine .sorted fun r h => ?_
      have hUser : (r "user_id").str = r "user_id" := keyed_text h (by decide)
      show decide ((r "user_id").str = .text s) = true ↔ whereIs "user_id" (.text s) r = true
      rw [hUser]
      exact column_iff

/-! ## The refinement -/

/-- The statements and queries of the services, on `MemoryDatabase` and on the schema: each
idiom stands for its command, and each lookup for its query. -/
def pairing (lower : String → String) : Pairing (schema lower) slot Statement Question where
  idiom st := st.text.idiom st.args
  command st := st.text.command st.args
  implements := idiom_implements
  lookup q := q.text.lookup lower q.args
  query q := q.text.query lower q.args
  gives := lookup_gives
  view q := q.text.view
  columns_view q r := columns_view q.text q.args r

/-- `MemoryDatabase()`. -/
def memoryDatabase : Shelves TableName (List Value) Row := fun _ => []

/-- The tables after the migrations. -/
def noRows : Tables TableName Row := fun _ => []

theorem noRows_simulated (lower : String → String) :
    Simulates (schema lower) slot memoryDatabase noRows where
  valid := ⟨fun _ _ _ => ⟨fun _ hr => (nomatch hr), List.nodup_nil⟩, fun _ _ _ _ hr => nomatch hr⟩
  rows _ := rfl
  slots _ _ he := nomatch he

/-- **`MemoryDatabase` refines the schema up to the first refusal.**  From the empty stores,
for every sequence of statements, transactions and queries: each call has an outcome that
the database allows, leaves the rows that the database has, and takes everything back where
it is a transaction that fails, if and only if the database refuses none of the calls. -/
theorem memory_database_refines_iff (lower : String → String)
    (calls : List (Call (pairing lower))) :
    Refines memoryDatabase noRows calls ↔ AllAccepted noRows calls :=
  refines_iff (noRows_simulated lower) slot_of_primary calls

namespace Sample

def execute (text : Sql) (args : List Value) (typed : fitAll text.params args = true) :
    Call (pairing id) := .execute ⟨text, args, typed⟩

def insertUser (userId email : String) : Statement :=
  ⟨.insertUsers, [.text userId, .text email, .text "hash", .text "p1", .text "", .int 0], rfl⟩

def insertMembership (userId : String) : Statement :=
  ⟨.insertMemberships, [.text userId, .text "org", .text "readonly_investigator", .null, .int 0],
    rfl⟩

/-- An organization with one user. -/
def oneUser : List (Call (pairing id)) :=
  [execute .insertOrganizations [.text "org", .text "Org", .int 0] rfl,
    .execute (insertUser "u" "mail")]

/-- Two setups of the second factor. -/
def twoSetups : List (Call (pairing id)) :=
  oneUser ++
    [execute .insertTotpCredentials
        [.text "u", .text "one", .text "k1", .texts [], .int 1] rfl,
      execute .insertTotpCredentials
        [.text "u", .text "two", .text "k1", .texts [], .int 2] rfl]

/-- A session of nobody. -/
def strangerSession : List (Call (pairing id)) :=
  oneUser ++
    [execute .insertSessions [.text "s", .text "nobody", .text "hash", .text "csrf", .null,
      .null, .int 0, .int 0, .int 1] rfl]

/-- A second user with the email of the first, in the transaction of `create_user`, which the
schema refuses and the dictionaries do not. -/
def sameEmail : List (Call (pairing id)) :=
  oneUser ++
    [.transaction [insertUser "v" "mail", insertMembership "v"] false
      (fun st hst => by
        rcases List.mem_cons.1 hst with rfl | hst
        · rfl
        · rw [List.mem_singleton.1 hst]
          rfl)]

/-- The values of a column in `MemoryDatabase` and in the tables, after some calls. -/
def columnAfter (calls : List (Call (pairing id))) (t : TableName) (c : String) :
    List Value × List Value :=
  (((calls.foldl (fun m call => (call.onShelves m).1) memoryDatabase) t).map (·.2 c),
    ((calls.foldl (fun db call => call.onTables db) noRows) t).map (· c))

end Sample

/-- **What the schema refuses is stored.**  A second TOTP credential of a user overwrites the
first, a session refers to a user who is not there, and a transaction leaves a second user
with the same email and the membership that goes with it. -/
theorem refused_rows_stored :
    Sample.columnAfter Sample.twoSetups .totpCredentials "secret_encrypted" =
        ([.text "two"], [.text "one"]) ∧
      Sample.columnAfter Sample.strangerSession .sessions "user_id" =
        ([.text "nobody"], []) ∧
      Sample.columnAfter Sample.sameEmail .users "email" =
        ([.text "mail", .text "mail"], [.text "mail"]) ∧
      Sample.columnAfter Sample.sameEmail .memberships "user_id" = ([.text "v"], []) ∧
      ¬ ∀ (lower : String → String) (calls : List (Call (pairing lower))),
        Refines memoryDatabase noRows calls := by
  refine ⟨by decide +kernel, by decide +kernel, by decide +kernel, by decide +kernel,
    fun hAll => ?_⟩
  have hRefines := hAll id Sample.twoSetups
  have hAccepted : AllAccepted noRows Sample.twoSetups :=
    (refines_iff (noRows_simulated id) slot_of_primary Sample.twoSetups).1 hRefines
  exact absurd hAccepted (by decide +kernel)

end AgentShield.Storage
