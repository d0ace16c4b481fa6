import AgentShield.Server.Verdicts

/-!
# The objects in the store

Everything that the server writes to the object store belongs to an entity of an
organisation: a submitted operation and its receipt, an action record, a verdict and
the evidence of the guardians for it, an export, an epoch.  The key of an object is
put together from the ids of its entity.
-/

namespace AgentShield.Server

/-- An entity with an object of its own.  Its key is made of the ids, and different entities
may share one where the ids contain a slash. -/
inductive StoredObject where
  | envelope (orgId agentId operationId : String)
  | receipt (orgId agentId operationId : String)
  | record (orgId agentId recordId : String)
  | verdict (orgId agentId verdictId : String)
  | evidence (orgId agentId verdictId : String)
  | exportFile (orgId exportId extension : String)
  | epoch (orgId epochId : String)
  deriving DecidableEq

/-- The organisation of an entity. -/
def StoredObject.orgId : StoredObject → String
  | envelope orgId _ _ | receipt orgId _ _ | record orgId _ _ | verdict orgId _ _
  | evidence orgId _ _ | exportFile orgId _ _ | epoch orgId _ => orgId

/-- Where the file of an export lies. -/
def exportKey (orgId exportId extension : String) : String :=
  orgId ++ "/exports/" ++ exportId ++ "." ++ extension

/-- Where the artifact of an epoch lies. -/
def epochKey (orgId epochId : String) : String := orgId ++ "/epochs/" ++ epochId ++ ".json"

/-- The key of each kind of object, made from the ids that it belongs to. -/
def StoredObject.key : StoredObject → String
  | envelope orgId agentId operationId => recordKey orgId agentId operationId
  | receipt orgId agentId operationId => receiptKey orgId agentId operationId
  | record orgId agentId recordId => recordKey orgId agentId recordId
  | verdict orgId agentId verdictId => verdictObjectKey orgId agentId verdictId
  | evidence orgId agentId verdictId =>
      guardianEvidenceKey (verdictObjectKey orgId agentId verdictId)
  | exportFile orgId exportId extension => exportKey orgId exportId extension
  | epoch orgId epochId => epochKey orgId epochId

end AgentShield.Server
