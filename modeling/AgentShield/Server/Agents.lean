import AgentShield.Server.Ingest

/-!
# The agent registry

Freezing, unfreezing and revoking.  Each route checks its request, looks the agent
up in the organisation of the caller, and updates one column by the primary key.
-/

namespace AgentShield.Server

open AgentShield.Lib AgentShield.Lib.Async AgentShield.Sdk

/-! ## Updates -/

/-- `UPDATE agents SET status = ... WHERE agent_id = ...`. -/
def Database.setAgentStatus (db : Database) (agentId : String) (status : AgentStatus) :
    Database :=
  { db with agents := db.agents.map fun a =>
      if a.agentId = agentId then { a with status := status } else a }

/-- `UPDATE agent_keys SET status = 'revoked' WHERE kid = ...`. -/
def Database.revokeAgentKey (db : Database) (kid : String) : Database :=
  { db with agentKeys := db.agentKeys.map fun k =>
      if k.kid = kid then { k with status := .revoked } else k }

/-- The UPDATE of an agent's status. -/
def World.setAgentStatus (w : World) (agentId : String) (status : AgentStatus) : World :=
  { w with db := w.db.setAgentStatus agentId status }

def World.revokeAgentKey (w : World) (kid : String) : World :=
  { w with db := w.db.revokeAgentKey kid }

/-! ## The service -/

namespace Agents

/-- `get_agent`: the agent, if it belongs to the organisation, and a 404 where it does not. -/
def requireAgent (agentId orgId : String) : Handler Agent := do
  let found ← read fun w => w.db.findAgent agentId orgId
  require found (.app (.plain 404 .unknownAgent))

/-- The agent is looked up, its status written, and the agent read back. -/
def setAgentStatus (agentId : String) (status : AgentStatus) (orgId : String) :
    Handler Agent := do
  let _ ← requireAgent agentId orgId
  write fun w => w.setAgentStatus agentId status
  requireAgent agentId orgId

/-- `revoke_key`: the key must be the agent's, and the agent the organisation's. -/
def revokeKey (agentId kid orgId : String) : Handler Unit := do
  let _ ← requireAgent agentId orgId
  let found ← read fun w => w.db.findAgentKey kid agentId
  let _ ← require found (.app (.withMessage 404 .notFound "Signing key not found."))
  write fun w => w.revokeAgentKey kid

end Agents

/-! ## The routes -/

namespace Routes

/-- `POST /v1/agents/{agent_id}/freeze`, which asks for a reason and keeps none. -/
def freezeAgent (agentId reason orgId : String) : Handler Agent := do
  raiseIf (blank reason = true) (invalid "Missing reason.")
  Agents.setAgentStatus agentId .frozen orgId

/-- `POST /v1/agents/{agent_id}/unfreeze`, which makes a revoked agent active as well. -/
def unfreezeAgent (agentId reason orgId : String) : Handler Agent := do
  raiseIf (blank reason = true) (invalid "Missing reason.")
  Agents.setAgentStatus agentId .active orgId

def revokeKey (agentId kid reason orgId : String) : Handler Unit := do
  raiseIf (kid = "" ∨ blank reason = true) (invalid "Missing kid/reason.")
  Agents.revokeKey agentId kid orgId

end Routes

end AgentShield.Server
