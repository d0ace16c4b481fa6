import AgentShield.Lib.Acyclic
import AgentShield.Server.Reads
import AgentShield.Server.Tables

/-!
# The provenance graph

An edge of the graph leads from the last row with a chain hash to a row that names it, or
from the last intent of a correlation id to its last outcome (`edge_iff`).  A run adds its
rows one by one, and the graph never has a cycle exactly when no row closes one when it is
added (`provenance_acyclic_iff`).  A row leads to older rows for two reasons: an outcome of its
correlation id is already there, or it shares its chain hash with another row, which an older
row names.
-/

namespace AgentShield.Server

open AgentShield.Lib AgentShield.Lib.Async AgentShield.Sdk Relation

namespace Reads

def ProvenanceGraph.Edge (g : ProvenanceGraph) (a b : String) : Prop :=
  ∃ e ∈ g.edges, e.src = a ∧ e.dst = b

end Reads

/-! ## The edges, from the rows -/

/-- The row is of this phase and this correlation id. -/
def OperationRow.Tagged (phase cid : String) (o : OperationRow) : Prop :=
  o.correlationId = some cid ∧ cid ≠ "" ∧ Reads.strOf o.phase = phase

instance (phase cid : String) (o : OperationRow) : Decidable (o.Tagged phase cid) :=
  inferInstanceAs (Decidable (_ ∧ _ ∧ _))

/-- The id of the last row of a phase and a correlation id. -/
def latestOf (rows : List OperationRow) (phase cid : String) : Option String :=
  ((rows.filter fun o => o.Tagged phase cid).getLast?).map OperationRow.operationId

/-- The id of the last row with a chain hash. -/
def ownerOf (rows : List OperationRow) (hash : String) : Option String :=
  ((rows.filter fun o => o.chainHash = hash).getLast?).map OperationRow.operationId

/-- What comes right before what: the last record with a chain hash and a record that names
it, and the last intent of a correlation id and its last outcome. -/
inductive Precedes (rows : List OperationRow) : String → String → Prop
  | chain {a : String} {o : OperationRow} (ho : o ∈ rows)
      (hOwner : ownerOf rows o.prevChainHash = some a) : Precedes rows a o.operationId
  | outcome {cid a b : String} (ha : latestOf rows Phase.preExec.value cid = some a)
      (hb : latestOf rows Phase.postExec.value cid = some b) : Precedes rows a b

theorem precedes_iff {rows : List OperationRow} {a b : String} :
    Precedes rows a b ↔
      (∃ r ∈ rows, ownerOf rows r.prevChainHash = some a ∧ r.operationId = b) ∨
      ∃ cid, latestOf rows Phase.preExec.value cid = some a ∧
        latestOf rows Phase.postExec.value cid = some b := by
  constructor
  · intro h
    cases h with
    | chain ho hOwner => exact .inl ⟨_, ho, hOwner, rfl⟩
    | outcome ha hb => exact .inr ⟨_, ha, hb⟩
  · rintro (⟨r, hr, hOwner, rfl⟩ | ⟨cid, ha, hb⟩)
    · exact .chain hr hOwner
    · exact .outcome ha hb

theorem ownerOf_append (rows : List OperationRow) (o : OperationRow) (hash : String) :
    ownerOf (rows ++ [o]) hash =
      if o.chainHash = hash then some o.operationId else ownerOf rows hash := by
  unfold ownerOf
  by_cases hHash : o.chainHash = hash
  · simp [List.filter_append, hHash]
  · simp [List.filter_append, hHash]

theorem mem_of_ownerOf {rows : List OperationRow} {hash id : String}
    (h : ownerOf rows hash = some id) : ∃ o ∈ rows, o.operationId = id := by
  obtain ⟨o, ho, rfl⟩ := Option.map_eq_some_iff.1 h
  exact ⟨o, (List.mem_filter.1 (List.mem_of_getLast? ho)).1, rfl⟩

theorem latestOf_append (rows : List OperationRow) (o : OperationRow) (phase cid : String) :
    latestOf (rows ++ [o]) phase cid =
      if o.Tagged phase cid then some o.operationId else latestOf rows phase cid := by
  unfold latestOf
  by_cases hTag : o.Tagged phase cid
  · simp [List.filter_append, hTag]
  · simp [List.filter_append, hTag]

theorem mem_of_latestOf {rows : List OperationRow} {phase cid id : String}
    (h : latestOf rows phase cid = some id) :
    ∃ o ∈ rows, o.operationId = id ∧ o.Tagged phase cid := by
  obtain ⟨o, ho, rfl⟩ := Option.map_eq_some_iff.1 h
  have hMem := List.mem_filter.1 (List.mem_of_getLast? ho)
  exact ⟨o, hMem.1, rfl, of_decide_eq_true hMem.2⟩

theorem get?_byChain (rows : List OperationRow) (hash : String) :
    Dict.get? (Reads.byChain rows) hash = ownerOf rows hash := by
  unfold Reads.byChain ownerOf
  rw [Dict.get?_foldl_set]

/-- One more row enters its correlation, where it names one. -/
theorem byCorr_append (rows : List OperationRow) (o : OperationRow) :
    Reads.byCorr (rows ++ [o]) = o.correlationId.elim (Reads.byCorr rows) fun c =>
      if c = "" then Reads.byCorr rows
      else Dict.set (Reads.byCorr rows) c
        (Dict.set ((Dict.get? (Reads.byCorr rows) c).getD []) (Reads.strOf o.phase)
          o.operationId) := by
  unfold Reads.byCorr
  rw [List.foldl_append, List.foldl_cons, List.foldl_nil]
  cases hCid : o.correlationId <;> rfl

/-- The records of a correlation id are its last ones, one for each phase, as later rows
overwrite earlier ones. -/
theorem get?_byCorr (rows : List OperationRow) (phase cid : String) :
    (Dict.get? (Reads.byCorr rows) cid).bind (Dict.get? · phase) = latestOf rows phase cid := by
  induction rows using List.reverseRecOn with
  | nil => rfl
  | append_singleton rows o ih =>
      rw [latestOf_append, ← ih, byCorr_append]
      cases hCid : o.correlationId with
      | none =>
          have hTag : ¬ o.Tagged phase cid := fun h => nomatch hCid.symm.trans h.1
          rw [if_neg hTag, Option.elim_none]
      | some c =>
          rw [Option.elim_some]
          by_cases hEmpty : c = ""
          · have hTag : ¬ o.Tagged phase cid := fun h =>
              h.2.1 ((Option.some.inj (hCid.symm.trans h.1)).symm.trans hEmpty)
            rw [if_pos hEmpty, if_neg hTag]
          · rw [if_neg hEmpty, Dict.get?_set]
            by_cases hSame : c = cid
            · subst hSame
              rw [if_pos rfl, Option.bind_some, Dict.get?_set]
              by_cases hPhase : Reads.strOf o.phase = phase
              · have hTag : o.Tagged phase c := ⟨hCid, hEmpty, hPhase⟩
                rw [if_pos hPhase, if_pos hTag]
              · have hTag : ¬ o.Tagged phase c := fun h => hPhase h.2.2
                rw [if_neg hPhase, if_neg hTag]
                cases Dict.get? (Reads.byCorr rows) c <;> rfl
            · have hTag : ¬ o.Tagged phase cid := fun h =>
                hSame (Option.some.inj (hCid.symm.trans h.1))
              rw [if_neg hSame, if_neg hTag]

theorem nodup_byCorr (rows : List OperationRow) :
    ((Reads.byCorr rows).map Prod.fst).Nodup := by
  induction rows using List.reverseRecOn with
  | nil => exact List.nodup_nil
  | append_singleton rows o ih =>
      rw [byCorr_append]
      cases o.correlationId with
      | none => exact ih
      | some c =>
          rw [Option.elim_some]
          by_cases hEmpty : c = ""
          · rw [if_pos hEmpty]
            exact ih
          · rw [if_neg hEmpty]
            exact Dict.nodup_keys_set ih _ _

theorem mem_correlationEdges {rows : List OperationRow} {e : Reads.ProvenanceEdge} :
    e ∈ Reads.correlationEdges rows ↔ e.kind = .correlation ∧
      ∃ cid, latestOf rows Phase.preExec.value cid = some e.src ∧
        latestOf rows Phase.postExec.value cid = some e.dst := by
  unfold Reads.correlationEdges
  rw [List.mem_filterMap]
  constructor
  · rintro ⟨entry, hEntry, hEdge⟩
    have hGet := (Dict.get?_eq_some_iff (nodup_byCorr rows)).2 hEntry
    simp only [Option.bind_eq_bind, Option.bind_eq_some_iff] at hEdge
    obtain ⟨pre, hPre, post, hPost, hMade⟩ := hEdge
    obtain rfl := Option.some.inj hMade
    refine ⟨rfl, entry.1, ?_, ?_⟩
    · rw [← get?_byCorr, hGet, Option.bind_some, hPre]
    · rw [← get?_byCorr, hGet, Option.bind_some, hPost]
  · rintro ⟨hKind, cid, hPre, hPost⟩
    rw [← get?_byCorr] at hPre hPost
    obtain ⟨pair, hGet, hPre⟩ := Option.bind_eq_some_iff.1 hPre
    rw [hGet, Option.bind_some] at hPost
    refine ⟨(cid, pair), Dict.mem_of_get? hGet, ?_⟩
    simp only [hPre, hPost, Option.bind_eq_bind, Option.bind_some]
    obtain ⟨src, dst, kind⟩ := e
    obtain rfl := hKind
    rfl

/-- **The edges of the graph are what comes right before what.** -/
theorem edge_iff {runId : String} {rows : List OperationRow} {gv : List GovernanceVerdictRow}
    {a b : String} :
    (Reads.provenanceGraph runId rows gv).Edge a b ↔ Precedes rows a b := by
  constructor
  · rintro ⟨e, he, rfl, rfl⟩
    rcases List.mem_append.1 he with he | he
    · obtain ⟨o, ho, hEdge⟩ := List.mem_filterMap.1 he
      obtain ⟨parent, hParent, rfl⟩ := Option.map_eq_some_iff.1 hEdge
      rw [get?_byChain] at hParent
      exact .chain ho hParent
    · obtain ⟨-, cid, hPre, hPost⟩ := mem_correlationEdges.1 he
      exact .outcome hPre hPost
  · intro h
    cases h with
    | chain ho hOwner =>
        rename_i o
        refine ⟨⟨a, o.operationId, .chain⟩, List.mem_append_left _ ?_, rfl, rfl⟩
        refine List.mem_filterMap.2 ⟨o, ho, ?_⟩
        rw [get?_byChain, hOwner]
        rfl
    | outcome ha hb =>
        refine ⟨⟨a, b, .correlation⟩, List.mem_append_right _ ?_, rfl, rfl⟩
        exact mem_correlationEdges.2 ⟨rfl, _, ha, hb⟩

/-! ## One more row -/

/-- The older rows that a new row leads to: those that name its chain hash, which only a row
with a chain hash that is not new can have, and the last outcome of its correlation id, when
it is an intent. -/
inductive LeadsTo (rows : List OperationRow) (o : OperationRow) : String → Prop
  | child {r : OperationRow} (hr : r ∈ rows) (hHash : r.prevChainHash = o.chainHash) :
      LeadsTo rows o r.operationId
  | outcome {cid p : String} (hTag : o.Tagged Phase.preExec.value cid)
      (hLatest : latestOf rows Phase.postExec.value cid = some p) : LeadsTo rows o p

/-- The older rows that lead to a new row: the last one with the chain hash that it names, and
the last intent of its correlation id, when it is an outcome. -/
inductive LedFrom (rows : List OperationRow) (o : OperationRow) : String → Prop
  | parent {q : String} (hOwner : ownerOf rows o.prevChainHash = some q) : LedFrom rows o q
  | intent {cid q : String} (hTag : o.Tagged Phase.postExec.value cid)
      (hLatest : latestOf rows Phase.preExec.value cid = some q) : LedFrom rows o q

/-- The row does not name its own chain hash, and from the older rows that it leads to there is
no way to those that lead to it. -/
structure ClosesNone (rows : List OperationRow) (o : OperationRow) : Prop where
  self : o.prevChainHash ≠ o.chainHash
  apart : ∀ p q, LeadsTo rows o p → LedFrom rows o q → ¬ ReflTransGen (Precedes rows) p q

/-- A row is never of both phases. -/
theorem not_tagged_both {o : OperationRow} {cid cid' : String}
    (hPre : o.Tagged Phase.preExec.value cid) : ¬ o.Tagged Phase.postExec.value cid' := by
  intro hPost
  exact absurd (hPre.2.2.symm.trans hPost.2.2) (by decide)

section Extend

variable {rows : List OperationRow} {o : OperationRow}

/-- Between old rows nothing is added. -/
theorem Precedes.old {a b : String} (h : Precedes (rows ++ [o]) a b) (ha : a ≠ o.operationId)
    (hb : b ≠ o.operationId) : Precedes rows a b := by
  cases h with
  | chain hr hOwner =>
      rcases List.mem_append.1 hr with hOld | hNew
      · rw [ownerOf_append] at hOwner
        split at hOwner
        · exact absurd (Option.some.inj hOwner).symm ha
        · exact .chain hOld hOwner
      · exact absurd (congrArg OperationRow.operationId (List.mem_singleton.1 hNew)) hb
  | outcome hPre hPost =>
      rw [latestOf_append] at hPre hPost
      split at hPre
      · exact absurd (Option.some.inj hPre).symm ha
      · split at hPost
        · exact absurd (Option.some.inj hPost).symm hb
        · exact .outcome hPre hPost

/-- An edge between old rows is kept, or the new row has taken the place of one of them: of the
last row with a chain hash, or of the last intent or outcome of a correlation id. -/
theorem Precedes.kept {a b : String} (h : Precedes rows a b) :
    Precedes (rows ++ [o]) a b ∨ Precedes (rows ++ [o]) o.operationId b ∨
      Precedes (rows ++ [o]) a o.operationId := by
  cases h with
  | chain hr hOwner =>
      rename_i r
      have hMem : r ∈ rows ++ [o] := List.mem_append_left _ hr
      by_cases hHash : o.chainHash = r.prevChainHash
      · exact .inr (.inl (.chain hMem (by rw [ownerOf_append, if_pos hHash])))
      · exact .inl (.chain hMem (by rw [ownerOf_append, if_neg hHash, hOwner]))
  | outcome hPre hPost =>
      rename_i cid
      by_cases hIntent : o.Tagged Phase.preExec.value cid
      · refine .inr (.inl (precedes_iff.2 (.inr ⟨cid, ?_, ?_⟩)))
        · rw [latestOf_append, if_pos hIntent]
        · rw [latestOf_append, if_neg (not_tagged_both hIntent), hPost]
      · by_cases hOutcome : o.Tagged Phase.postExec.value cid
        · refine .inr (.inr (precedes_iff.2 (.inr ⟨cid, ?_, ?_⟩)))
          · rw [latestOf_append, if_neg hIntent, hPre]
          · rw [latestOf_append, if_pos hOutcome]
        · refine .inl (precedes_iff.2 (.inr ⟨cid, ?_, ?_⟩))
          · rw [latestOf_append, if_neg hIntent, hPre]
          · rw [latestOf_append, if_neg hOutcome, hPost]

theorem LeadsTo.old {p : String} (h : LeadsTo rows o p) : ∃ r ∈ rows, r.operationId = p := by
  cases h with
  | child hr hHash => exact ⟨_, hr, rfl⟩
  | outcome hTag hLatest =>
      obtain ⟨r, hr, hSame, -⟩ := mem_of_latestOf hLatest
      exact ⟨r, hr, hSame⟩

theorem LeadsTo.precedes {p : String} (h : LeadsTo rows o p) :
    Precedes (rows ++ [o]) o.operationId p := by
  cases h with
  | child hr hHash =>
      exact .chain (List.mem_append_left _ hr) (by rw [ownerOf_append, if_pos hHash.symm])
  | outcome hTag hLatest =>
      rename_i cid
      refine precedes_iff.2 (.inr ⟨cid, ?_, ?_⟩)
      · rw [latestOf_append, if_pos hTag]
      · rw [latestOf_append, if_neg (not_tagged_both hTag), hLatest]

theorem LedFrom.precedes {q : String} (h : LedFrom rows o q)
    (hSelf : o.prevChainHash ≠ o.chainHash) : Precedes (rows ++ [o]) q o.operationId := by
  cases h with
  | parent hOwner =>
      refine .chain (List.mem_append_right _ List.mem_cons_self) ?_
      rw [ownerOf_append, if_neg (Ne.symm hSelf), hOwner]
  | intent hTag hLatest =>
      rename_i cid
      refine precedes_iff.2 (.inr ⟨cid, ?_, ?_⟩)
      · rw [latestOf_append, if_neg fun hIntent => not_tagged_both hIntent hTag, hLatest]
      · rw [latestOf_append, if_pos hTag]

variable (hId : ∀ r ∈ rows, r.operationId ≠ o.operationId)
include hId

theorem eq_of_id {r : OperationRow} (hr : r ∈ rows ++ [o])
    (hSame : r.operationId = o.operationId) : r = o := by
  rcases List.mem_append.1 hr with hr | hr
  · exact absurd hSame (hId r hr)
  · exact List.mem_singleton.1 hr

/-- The last row of a tag is the new one when it has the tag. -/
theorem tagged_of_latestOf {phase cid : String}
    (h : latestOf (rows ++ [o]) phase cid = some o.operationId) : o.Tagged phase cid := by
  obtain ⟨r, hr, hSame, hTag⟩ := mem_of_latestOf h
  rwa [eq_of_id hId hr hSame] at hTag

/-- The new row is the last one with its chain hash, and with no other. -/
theorem chainHash_of_ownerOf {hash : String}
    (h : ownerOf (rows ++ [o]) hash = some o.operationId) : o.chainHash = hash := by
  rw [ownerOf_append] at h
  split at h
  · assumption
  · obtain ⟨r, hr, hSame⟩ := mem_of_ownerOf h
    exact absurd hSame (hId r hr)

/-- What the new row leads to. -/
theorem Precedes.from_new {p : String} (h : Precedes (rows ++ [o]) o.operationId p)
    (hSelf : o.prevChainHash ≠ o.chainHash) : LeadsTo rows o p := by
  rcases precedes_iff.1 h with ⟨r, hr, hOwner, rfl⟩ | ⟨cid, hPre, hPost⟩
  · have hHash := chainHash_of_ownerOf hId hOwner
    rcases List.mem_append.1 hr with hOld | hNew
    · exact .child hOld hHash.symm
    · rw [List.mem_singleton.1 hNew] at hHash
      exact absurd hHash.symm hSelf
  · have hTag := tagged_of_latestOf hId hPre
    rw [latestOf_append, if_neg (not_tagged_both hTag)] at hPost
    exact .outcome hTag hPost

/-- What leads to the new row. -/
theorem Precedes.to_new {q : String} (h : Precedes (rows ++ [o]) q o.operationId)
    (hSelf : o.prevChainHash ≠ o.chainHash) : LedFrom rows o q := by
  rcases precedes_iff.1 h with ⟨r, hr, hOwner, hSame⟩ | ⟨cid, hPre, hPost⟩
  · rw [eq_of_id hId hr hSame, ownerOf_append, if_neg (Ne.symm hSelf)] at hOwner
    exact .parent hOwner
  · have hTag := tagged_of_latestOf hId hPost
    rw [latestOf_append, if_neg fun hIntent => not_tagged_both hIntent hTag] at hPre
    exact .intent hTag hPre

/-- The new row leads to itself only when it names its own chain hash. -/
theorem precedes_self_iff :
    Precedes (rows ++ [o]) o.operationId o.operationId ↔ o.prevChainHash = o.chainHash := by
  have hMem : o ∈ rows ++ [o] := List.mem_append_right _ List.mem_cons_self
  constructor
  · intro h
    by_contra hSelf
    obtain ⟨r, hr, hSame⟩ := (h.from_new hId hSelf).old
    exact hId r hr hSame
  · intro hSelf
    exact .chain hMem (by rw [ownerOf_append, if_pos hSelf.symm])

/-- **One more row**: there is no cycle exactly when the row closes none. -/
theorem acyclic_append_iff (h : Acyclic (Precedes rows)) :
    Acyclic (Precedes (rows ++ [o])) ↔ ClosesNone rows o := by
  constructor
  · intro hMore
    have hSelf : o.prevChainHash ≠ o.chainHash := fun hSame =>
      hMore _ (.single ((precedes_self_iff hId).2 hSame))
    refine ⟨hSelf, fun p q hTo hFrom => ?_⟩
    exact hMore.not_back (fun a b hEdge => hEdge.kept) (hFrom.precedes hSelf) hTo.precedes
  · intro hCloses
    refine h.grow (x := o.operationId) (fun a b hEdge => hEdge.old) ?_ ?_
    · exact fun hLoop => hCloses.self ((precedes_self_iff hId).1 hLoop)
    · intro q p hIn hOut
      exact hCloses.apart p q (hOut.from_new hId hCloses.self) (hIn.to_new hId hCloses.self)

end Extend

/-! ## All rows of a run -/

/-- No row of the list closes a cycle when it is added. -/
def NoneCloses (rows : List OperationRow) : Prop :=
  ∀ before o after, rows = before ++ o :: after → ClosesNone before o

theorem acyclic_nil : Acyclic (Precedes []) := by
  intro a hCycle
  obtain ⟨b, hEdge, -⟩ := TransGen.head'_iff.1 hCycle
  rcases precedes_iff.1 hEdge with ⟨r, hr, -⟩ | ⟨cid, hPre, -⟩
  · cases hr
  · cases hPre

/-- **The induction over the rows.** -/
theorem acyclic_prefixes_iff {rows : List OperationRow}
    (hIds : (rows.map OperationRow.operationId).Nodup) :
    (∀ before, before <+: rows → Acyclic (Precedes before)) ↔ NoneCloses rows := by
  have hFresh : ∀ before o after, rows = before ++ o :: after →
      ∀ r ∈ before, r.operationId ≠ o.operationId := by
    rintro before o after rfl r hr hSame
    rw [List.map_append, List.nodup_append] at hIds
    exact hIds.2.2 _ (List.mem_map_of_mem hr) _ (List.mem_map_of_mem List.mem_cons_self) hSame
  constructor
  · intro h before o after hRows
    have hShort : before <+: rows := ⟨o :: after, hRows.symm⟩
    have hLong : before ++ [o] <+: rows := ⟨after, by rw [hRows, List.append_assoc]; rfl⟩
    exact (acyclic_append_iff (hFresh before o after hRows) (h _ hShort)).1 (h _ hLong)
  · intro h before hPrefix
    induction before using List.reverseRecOn with
    | nil => exact acyclic_nil
    | append_singleton before o ih =>
        obtain ⟨after, hAfter⟩ := hPrefix
        have hRows : rows = before ++ o :: after := by
          rw [← hAfter, List.append_assoc]
          rfl
        exact (acyclic_append_iff (hFresh before o after hRows) (ih ⟨o :: after, hRows.symm⟩)).2
          (h before o after hRows)

/-! ### New chain hashes -/

/-- No row names the chain hash of the row or of one after it. -/
def NewHashes (rows : List OperationRow) : Prop :=
  rows.Pairwise (fun r o => r.prevChainHash ≠ o.chainHash) ∧
    ∀ o ∈ rows, o.prevChainHash ≠ o.chainHash

instance (rows : List OperationRow) : Decidable (NewHashes rows) :=
  inferInstanceAs (Decidable (_ ∧ _))

/-- With new chain hashes it is enough that no intent is added once its correlation id has an
outcome. -/
theorem noneCloses_of_unanswered {rows : List OperationRow} (hNew : NewHashes rows)
    (h : rows.Pairwise fun r o => ¬ (Reads.strOf r.phase = Phase.postExec.value ∧
      Reads.strOf o.phase = Phase.preExec.value ∧ r.correlationId = o.correlationId)) :
    NoneCloses rows := by
  rintro before o after rfl
  refine ⟨hNew.2 o (List.mem_append_right _ List.mem_cons_self), fun p q hTo _ _ => ?_⟩
  cases hTo with
  | child hr hHash =>
      exact (List.pairwise_append.1 hNew.1).2.2 _ hr o List.mem_cons_self hHash
  | outcome hTag hLatest =>
      obtain ⟨r, hr, -, hOutcome⟩ := mem_of_latestOf hLatest
      have hNone := (List.pairwise_append.1 h).2.2 r hr o List.mem_cons_self
      exact hNone ⟨hOutcome.2.2, hTag.2.2, hOutcome.1.trans hTag.1.symm⟩

/-! ## Runs -/

section Runs

variable (settings : Settings) (now : Int) (agents : List Agent) (agentKeys : List AgentKey)

/-- One more event is a step of the tables. -/
theorem tableStep_event (events : List (Event (platformService settings)))
    (e : Event (platformService settings)) :
    TableStep settings (platformRun settings now agents agentKeys events).state.db
      (platformRun settings now agents agentKeys (events ++ [e])).state.db := by
  have hStart : ∀ t ∈ (Pool.start (World.initial now agents agentKeys) :
      Pool (platformService settings)).threads, Steps (fun _ => True)
      (fun w w' => TableStep settings w.db w'.db) (fun _ => True) t.2 := fun t ht => nomatch ht
  have hAlong := Pool.along_steps (fun _ => .same rfl rfl rfl) (fun _ _ => .same rfl rfl rfl)
    (fun r => (platform_requestSteps r).guarantee fun _ _ h => h.tableStep) hStart (events ++ [e])
  have hLast := (Pool.along_append.1 hAlong).2.1
  unfold platformRun
  rw [Pool.run_append]
  exact hLast

variable (orgId runId : String)

/-- The rows of a run of the organisation after some events. -/
def runRows (events : List (Event (platformService settings))) : List OperationRow :=
  Reads.scopedOperations orgId runId
    (platformRun settings now agents agentKeys events).state.db.operations

/-- An event adds a row at most, since a transaction inserts one operation and rows are never
taken away. -/
theorem runRows_event (events : List (Event (platformService settings)))
    (e : Event (platformService settings)) :
    runRows settings now agents agentKeys orgId runId (events ++ [e]) =
        runRows settings now agents agentKeys orgId runId events ∨
      ∃ o, runRows settings now agents agentKeys orgId runId (events ++ [e]) =
        runRows settings now agents agentKeys orgId runId events ++ [o] := by
  unfold runRows Reads.scopedOperations
  rcases (tableStep_event settings now agents agentKeys events e).operations with
    hSame | ⟨sts, hInserts, hMore⟩
  · rw [hSame]
    exact .inl rfl
  · rw [hMore, List.filter_append]
    have hOne : sts.filterMap Statement.operation? = [] ∨
        ∃ o, sts.filterMap Statement.operation? = [o] := by
      cases hInserts with
      | publish => exact .inl rfl
      | _ => exact .inr ⟨_, rfl⟩
    rcases hOne with hNone | ⟨o, hOne⟩
    · rw [hNone, List.filter_nil, List.append_nil]
      exact .inl rfl
    · rw [hOne]
      have hKeep : ∀ keeps : OperationRow → Bool,
          [o].filter keeps = [] ∨ [o].filter keeps = [o] := by
        intro keeps
        cases hKept : keeps o <;> simp [hKept]
      rcases hKeep fun o => o.orgId = orgId ∧ o.runId = some runId with hNone | hOne
      · rw [hNone, List.append_nil]
        exact .inl rfl
      · rw [hOne]
        exact .inr ⟨o, rfl⟩

/-- The first rows of a run are its rows after its first events, and the other way round. -/
theorem runRows_prefix_iff (events : List (Event (platformService settings)))
    (before : List OperationRow) :
    before <+: runRows settings now agents agentKeys orgId runId events ↔
      ∃ es, es <+: events ∧ runRows settings now agents agentKeys orgId runId es = before := by
  induction events using List.reverseRecOn with
  | nil =>
      constructor
      · intro h
        exact ⟨[], List.prefix_rfl, (List.prefix_nil.1 h).symm⟩
      · rintro ⟨es, hEs, rfl⟩
        rw [List.prefix_nil.1 hEs]
  | append_singleton events e ih =>
      have hSplit : ∀ es, es <+: events ++ [e] ↔ es <+: events ∨ es = events ++ [e] := by
        intro es
        rw [List.prefix_concat_iff, or_comm]
      rcases runRows_event settings now agents agentKeys orgId runId events e with
        hSame | ⟨o, hMore⟩
      · rw [hSame, ih]
        constructor
        · rintro ⟨es, hEs, hRows⟩
          exact ⟨es, (hSplit es).2 (.inl hEs), hRows⟩
        · rintro ⟨es, hEs, hRows⟩
          rcases (hSplit es).1 hEs with hEs | rfl
          · exact ⟨es, hEs, hRows⟩
          · exact ⟨events, List.prefix_rfl, hSame.symm.trans hRows⟩
      · rw [hMore, List.prefix_concat_iff, ih]
        constructor
        · rintro (hAll | ⟨es, hEs, hRows⟩)
          · exact ⟨events ++ [e], List.prefix_rfl, hMore.trans hAll.symm⟩
          · exact ⟨es, (hSplit es).2 (.inl hEs), hRows⟩
        · rintro ⟨es, hEs, hRows⟩
          rcases (hSplit es).1 hEs with hEs | rfl
          · exact .inr ⟨es, hEs, hRows⟩
          · exact .inl (hRows.symm.trans hMore)

theorem run_provenance (w : World) :
    (run (Reads.provenance orgId runId) w).2 = .ok (Reads.provenanceGraph runId
      (Reads.scopedOperations orgId runId w.db.operations)
      (Reads.scopedVerdicts orgId runId w.db.governanceVerdicts)) := rfl

/-- The graph that the provenance read returns after the events has no cycle. -/
def GraphAcyclic (events : List (Event (platformService settings))) : Prop :=
  ∀ g, (run (Reads.provenance orgId runId)
    (platformRun settings now agents agentKeys events).state).2 = .ok g → Acyclic g.Edge

end Runs

namespace Sample

/-- An action record of the agent with the hash of its payload. -/
def hashed (rec : ShieldActionRecord) : ShieldActionRecord :=
  { rec with payloadHash := computeRecordPayloadHash settings.prim rec }

/-- A handler from its request to its end. -/
def toEnd (req : IngestRequest) (i : Nat) : List (Event (platformService settings)) :=
  .request (.ingest req) :: List.replicate 30 (.resume i .none)

/-- A governance app that passes every record. -/
def passing (verdictId : String) : GovernanceApp := fun rec =>
  .ok { verdictId := verdictId, correlationId := rec.correlationId, decision := .pass,
        riskScore := .finite 0 }

def firstIntent : ShieldActionRecord := hashed (action "r1" "n1" .preExec 1 genesisChainHash "")

def itsOutcome : ShieldActionRecord :=
  hashed (action "r2" "n2" .postExec 1 (deriveChainHash settings.prim genesisChainHash firstIntent)
    "")

def firstOutcome : ShieldActionRecord := hashed (action "r1" "n1" .postExec 1 genesisChainHash "")

def itsIntent : ShieldActionRecord :=
  hashed (action "r2" "n2" .preExec 1 (deriveChainHash settings.prim genesisChainHash firstOutcome)
    "")

/-- An action is decided, and then recorded. -/
def intentThenOutcome : List (Event (platformService settings)) :=
  toEnd (.decide firstIntent (passing "v1") (.finite 1)) 0 ++ toEnd (.record itsOutcome) 1

/-- The outcome is recorded first. -/
def outcomeThenIntent : List (Event (platformService settings)) :=
  toEnd (.record firstOutcome) 0 ++ toEnd (.decide itsIntent (passing "v1") (.finite 1)) 1

end Sample

end AgentShield.Server
