import AgentShield.Server.ConsoleRuns

/-!
# Exports in runs of the server

What a JSON export is downloaded as is settled by one moment of the request that made it,
whatever is submitted, decided or exported besides (`export_exact`), as long as no other
request stores an object under its key.
-/

namespace AgentShield.Server

open AgentShield.Lib AgentShield.Lib.Async AgentShield.Sdk

/-! ## The objects that a request stores -/

/-- The entities whose objects the handler of a request stores. -/
def ConsoleRequest.Writes : ConsoleRequest → StoredObject → Prop
  | .archive req, o => req.Writes o
  | .runEpochInterval orgId _ _, o => ∃ epochId, o = .epoch orgId epochId
  | _, _ => False

/-- No object that the handler stores is under the key. -/
def ConsoleRequest.Spares (key : String) (req : ConsoleRequest) : Prop :=
  ∀ o, req.Writes o → o.key ≠ key

/-- A step of the handler of a request. -/
structure ConsoleStep (req : ConsoleRequest) (s s' : Archive) : Prop where
  keyed : s.Keyed → s'.Keyed
  objects : s'.world.objects = s.world.objects ∨ ∃ o body, req.Writes o ∧
    s'.world.objects = (s.world.put o.key body).objects

section Steps

variable {settings : ArchiveSettings}

theorem consoleStep_rest (req : ConsoleRequest) (s : Archive) : ConsoleStep req s s :=
  ⟨id, .inl rfl⟩

/-- A step of the archive is a step of the console where it writes no more. -/
theorem ArchiveStep.console {areq : ArchiveRequest} {req : ConsoleRequest} {s s' : Archive}
    (h : ArchiveStep settings areq s s') (hWrites : ∀ o, areq.Writes o → req.Writes o) :
    ConsoleStep req s s' where
  keyed := h.keyed
  objects := by
    rcases h.objects with hSame | ⟨o, body, hOwn, hPut⟩
    · exact .inl hSame
    · exact .inr ⟨o, body, hWrites o hOwn, hPut⟩

/-- The steps of a handler in states with keyed epochs. -/
abbrev Consoled {α : Type} (req : ConsoleRequest) (prog : ArchiveHandler α) : Prop :=
  Steps Archive.Keyed (ConsoleStep req) (fun _ => True) prog

theorem registers_steps {α : Type} {prog : Handler α} {req : ConsoleRequest}
    (h : Steps (fun _ => True) World.Registers (fun _ => True) prog) :
    Consoled req (onWorld prog) := by
  refine (h.onPart.weaken fun _ _ => trivial).guarantee ?_
  rintro s s' ⟨w, hStep, rfl⟩
  cases hStep with
  | rest => exact consoleStep_rest req s
  | update db h => exact ⟨id, .inl rfl⟩

theorem computedEpochs_consoled {req : ConsoleRequest} (orgId : String) :
    Consoled req (computedEpochs settings orgId) := by
  unfold computedEpochs persistedEpochs
  refine Steps.bind (Q := fun _ => True) (fun s _ => ⟨consoleStep_rest req s, trivial⟩)
    fun persisted _ => ?_
  split
  · exact trivial
  · exact Steps.read_bind (consoleStep_rest req) fun s _ => trivial

/-- The ticks of a loop write what single ticks do. -/
theorem epochTicks_steps (orgId : String) (intervalSeconds : Rat) (maxRuns : Int) (runs : Nat) :
    Consoled (.runEpochInterval orgId intervalSeconds maxRuns)
      (epochTicks settings orgId runs) := by
  induction runs with
  | zero => exact trivial
  | succ runs ih =>
      rw [epochTicks]
      have hTick : Consoled (.runEpochInterval orgId intervalSeconds maxRuns)
          (runEpochOnce settings orgId) :=
        runEpochOnce_steps.guarantee fun s s' h => h.console fun o hOwn => hOwn
      refine Steps.bind hTick fun res _ => ?_
      by_cases hLast : runs = 0
      · rw [if_pos hLast]
        exact trivial
      · rw [if_neg hLast]
        refine Steps.read_bind (consoleStep_rest _) fun s _ => ?_
        exact Steps.bind ih fun results _ => trivial

/-- Reading an export writes nothing. -/
theorem getExport_steps {req : ConsoleRequest} (orgId exportId : String) :
    Consoled req (getExport orgId exportId) := by
  unfold getExport
  exact Steps.read_bind (consoleStep_rest req) fun s _ => Steps.require_bind fun row _ => trivial

theorem downloadExport_steps {req : ConsoleRequest} (orgId exportId : String) :
    Consoled req (downloadExport orgId exportId) := by
  unfold downloadExport
  refine Steps.bind (getExport_steps orgId exportId) fun found _ => Steps.raiseIf_bind fun _ => ?_
  refine Steps.read_bind (consoleStep_rest req) fun s _ => Steps.require_bind fun raw _ => ?_
  split
  · exact trivial
  · exact Steps.ofExcept fun _ _ => trivial

/-- Nor does downloading one. -/
theorem Routes.downloadExport_steps {req : ConsoleRequest} (orgId exportId : String) :
    Consoled req (Routes.downloadExport orgId exportId) := by
  unfold Routes.downloadExport
  refine Steps.bind (Server.downloadExport_steps orgId exportId) fun payload _ => ?_
  exact Steps.ofExcept fun _ _ => trivial

/-- **Every step of a handler** stores an object of its request, if any. -/
theorem console_steps (req : ConsoleRequest) : Consoled req (console settings req) := by
  cases req with
  | archive req =>
      have hArchive : Consoled (.archive req) (archive settings req) :=
        (archive_steps req).guarantee fun s s' h => h.console fun o hOwn => hOwn
      exact Steps.bind hArchive fun _ _ => trivial
  | registerAgent req orgId =>
      exact Steps.bind (registers_steps (registerAgent_steps req orgId)) fun _ _ => trivial
  | deleteAgent agentId orgId =>
      exact Steps.bind (registers_steps (deleteAgent_steps agentId orgId)) fun _ _ => trivial
  | getAgent agentId orgId =>
      exact Steps.bind (registers_steps (getAgent_steps agentId orgId)) fun _ _ => trivial
  | epochs orgId => exact Steps.bind (computedEpochs_consoled orgId) fun _ _ => trivial
  | runEpochInterval orgId intervalSeconds maxRuns =>
      refine Steps.bind (Q := fun _ => True) ?_ fun _ _ => trivial
      refine Steps.raiseIf_bind fun _ => Steps.raiseIf_bind fun _ => ?_
      exact epochTicks_steps orgId intervalSeconds maxRuns _
  | listExports orgId =>
      refine Steps.bind (Q := fun _ => True) ?_ fun _ _ => trivial
      exact fun s _ => ⟨consoleStep_rest _ s, trivial⟩
  | getExport orgId exportId => exact Steps.bind (getExport_steps orgId exportId) fun _ _ => trivial
  | downloadExport orgId exportId =>
      exact Steps.bind (Routes.downloadExport_steps orgId exportId) fun _ _ => trivial

end Steps

/-! ## Downloads -/

section Downloads

variable {s : Archive} {orgId exportId key : String}

/-- The download of a stored document is its `JSONResponse`. -/
theorem run_downloadExport {row : ExportModel} {fields : List (String × Json)}
    (hFound : s.findExport exportId orgId = some row) (hDone : row.status = .done)
    (hKey : row.r2ExportKey = some key) (hName : key ≠ "") (hReport : isReport key = false)
    (hObject : s.world.get key = some (.document (.obj fields))) :
    run (Routes.downloadExport orgId exportId) s =
      (s, Download.jsonResponse (.document (.obj fields))) := by
  have hGet : run (getExport orgId exportId) s = (s, .ok
      { exported := row, downloadUrl := some ("/v1/exports/" ++ exportId ++ "/download") }) := by
    unfold getExport
    rw [run_read_bind, hFound]
    rfl
  have hPayload : run (downloadExport orgId exportId) s =
      (s, .ok (.document (.obj fields))) := by
    unfold downloadExport
    rw [run_bind, hGet]
    simp only [run_raiseIf_bind, run_read_bind, run_require_bind, hDone, hKey, Option.getD_some,
      hName, hObject, hReport]
    rfl
  unfold Routes.downloadExport
  rw [run_bind, hPayload]
  rfl

/-- An export that the organisation does not have is not there. -/
theorem run_downloadExport_unknown (h : s.findExport exportId orgId = none) :
    run (Routes.downloadExport orgId exportId) s =
      (s, .error (.app (.withMessage 404 .notFound "Export not found."))) := by
  have hGet : run (getExport orgId exportId) s =
      (s, .error (.app (.withMessage 404 .notFound "Export not found."))) := by
    unfold getExport
    rw [run_read_bind, h]
    rfl
  unfold Routes.downloadExport downloadExport
  rw [run_bind, run_bind, hGet]

theorem isReport_json (orgId exportId : String) :
    isReport (exportKey orgId exportId "json") = false := by
  by_contra h
  rw [Bool.not_eq_false] at h
  obtain ⟨front, hFront⟩ := List.isSuffixOf_iff_suffix.1 h
  have hLast := congrArg List.getLast? hFront
  have hText : (exportKey orgId exportId "json").toList =
      (orgId ++ "/exports/" ++ exportId ++ ".").toList ++ "json".toList := String.toList_append
  have hFormat : "json".toList.getLast? = some 'n' := rfl
  have hReport : ".pdf".toList.getLast? = some 'f' := rfl
  rw [hText, List.getLast?_append, List.getLast?_append, hFormat, hReport] at hLast
  cases hLast

theorem exportKey_ne_empty (orgId exportId extension : String) :
    exportKey orgId exportId extension ≠ "" := by
  intro h
  have hLength := congrArg String.length h
  simp [exportKey] at hLength

/-- While ids are unique an export is found under its own organisation only. -/
theorem findExport_eq (hIds : KeyUnique ExportModel.exportId s.exports) {row : ExportModel}
    (hRow : row ∈ s.exports) :
    s.findExport row.exportId row.orgId = some row ∧
      ∀ orgId', orgId' ≠ row.orgId → s.findExport row.exportId orgId' = none := by
  constructor
  · cases hFound : s.findExport row.exportId row.orgId with
    | none =>
        have hNot := List.find?_eq_none.1 hFound row hRow
        simp at hNot
    | some row' =>
        have hSame := List.find?_some hFound
        simp only [decide_eq_true_eq] at hSame
        rw [hIds.eq (List.mem_of_find?_eq_some hFound) hRow hSame.1]
  · intro orgId' hOther
    refine List.find?_eq_none.2 fun row' hRow' hSame => hOther ?_
    simp only [decide_eq_true_eq] at hSame
    rw [← hSame.2, hIds.eq hRow' hRow hSame.1]

end Downloads

/-! ## Runs -/

/-- None of the requests stores an object under the key. -/
def Unshared {settings : ArchiveSettings} (key : String)
    (events : List (Event (consoleService settings))) : Prop :=
  ∀ req, .request req ∈ events → ConsoleRequest.Spares key req

section Runs

variable (settings : ArchiveSettings) (now : Int)

/-- In every run the rows have keys of their own, and every request under way keeps to its own
writes. -/
theorem consoleRun_steps (events : List (Event (consoleService settings))) :
    (consoleRun settings now events).state.Keyed ∧
      ∀ t ∈ (consoleRun settings now events).threads, Consoled t.1 t.2 :=
  Pool.run_requests (fun _ _ _ hKeyed h => h.keyed hKeyed) (fun _ _ hKeyed => hKeyed)
    console_steps (p := Pool.start { world := .initial now [] [] })
    (fun _ ht => (List.not_mem_nil ht).elim) (fun _ he => (List.not_mem_nil he).elim) events

/-- A step leaves the object under every key that is not its request's to write. -/
theorem ConsoleStep.get {req : ConsoleRequest} {s s' : Archive} (h : ConsoleStep req s s')
    {key : String} (hOther : req.Spares key) :
    s'.world.get key = s.world.get key := by
  rcases h.objects with hSame | ⟨o, body, hOwn, hPut⟩
  · rw [World.get, hSame]
    rfl
  · rw [World.get, hPut]
    exact (World.get_put _ _ _ _).trans (if_neg (hOther o hOwn))

/-- While nothing else stores the object of an export, it stays as the export has stored it. -/
theorem export_beside {before after : List (Event (consoleService settings))} {key : String}
    (hUnshared : Unshared key (before ++ after)) (req : ConsoleRequest) :
    let asked := consoleRun settings now before
    (asked.step (.request req)).Along (fun p e => Pool.isStepOf asked.threads.length e = false →
      p.state.GrowsBeside settings.sha256 True key (p.step e).state) after := by
  intro asked
  obtain ⟨hCommitted, hWay⟩ := consoleRun_grows settings now before
  obtain ⟨hKeyed, hThreads⟩ := consoleRun_steps settings now before
  have hGrows := (run_grows hWay hCommitted (.request req :: after)).2.1.2
  have hStart : ∀ t ∈ (consoleRun settings now []).threads, ConsoleRequest.Spares key t.1 :=
    fun _ ht => (List.not_mem_nil ht).elim
  have hAsked : ∀ t ∈ asked.threads, ConsoleRequest.Spares key t.1 :=
    Pool.run_asked hStart before fun r hr => hUnshared r (List.mem_append_left _ hr)
  -- the newest handler is the one of the request
  have hLength : asked.threads.length < (asked.step (.request req)).threads.length :=
    (List.getElem?_eq_some_iff.1 (Pool.step_request asked req)).1
  have hOthers : ∀ i r prog, (asked.step (.request req)).threads[i]? = some (r, prog) →
      i ≠ asked.threads.length → ConsoleRequest.Spares key r := by
    intro i r prog hi hOther
    rcases Pool.thread_step hi with ⟨r', -, hNewest, -⟩ | ⟨prog', hOld, -⟩
    · exact absurd hNewest hOther
    · exact hAsked (r, prog') (List.mem_of_getElem? hOld)
  let G : (consoleService settings).Req → Archive → Archive → Prop := ConsoleStep
  have hSteps : ∀ t ∈ (asked.step (.request req)).threads,
      Steps Archive.Keyed (G t.1) (fun _ => True) t.2 := by
    have hRun := (consoleRun_steps settings now (before ++ [.request req])).2
    rw [consoleRun, Pool.run_append] at hRun
    exact hRun
  have hObjects := Pool.along_others (G := G) (K := ConsoleRequest.Spares key) consoleStep_rest
    (fun _ _ _ hKeyed h => h.keyed hKeyed) (fun _ _ hKeyed => hKeyed) console_steps hSteps hKeyed
    hLength hOthers after fun r hr => hUnshared r (List.mem_append_right _ hr)
  refine (hGrows.and hObjects).mono fun p e hStep hOther => ⟨hStep.1, fun _ => ?_⟩
  rcases hStep.2 hOther with ⟨ms, rfl⟩ | hSame | ⟨r, hWrites, hStored⟩
  · rfl
  · rw [hSame]
  · exact hStored.get hWrites

end Runs

/-- The answer holds later too. -/
theorem ExportedAt.later {settings : ArchiveSettings} {orgId exportId : String}
    {params : CreateExportRequest} {s₁ s₂ s s' : Archive} {now : Int} {epochs : List Epoch}
    {res : GetExportResponse}
    (h : ExportedAt settings True orgId params exportId s₁ s₂ now epochs res s)
    (hLater : s.GrowsBeside settings.sha256 True
      (exportKey orgId exportId params.format.value) s') :
    ExportedAt settings True orgId params exportId s₁ s₂ now epochs res s' where
  answer := h.answer
  row := hLater.grows.exports.subset h.row
  artifact hKeep hFormat := (hLater.object hKeep).trans (h.artifact hKeep hFormat)

/-- What is known of an export that was asked for in `s₀`. -/
def ExportedSince (settings : ArchiveSettings) (orgId : String) (params : CreateExportRequest)
    (exportId : String) (s₀ : Archive) (res : GetExportResponse) (s : Archive) : Prop :=
  ∃ s₁ s₂ now epochs, s₀.Grows settings.sha256 s₁ ∧ s₁.Grows settings.sha256 s₂ ∧
    s₂.Grows settings.sha256 s ∧
      ExportedAt settings True orgId params exportId s₁ s₂ now epochs res s

/-- From its request on an export is made of what is stored meanwhile, and its row is stored
last. -/
theorem export_since (settings : ArchiveSettings) (orgId : String) (params : CreateExportRequest)
    (exportId : String) (s₀ : Archive) :
    Since (Archive.GrowsBeside settings.sha256 True
        (exportKey orgId exportId params.format.value)) (Archive.Grows settings.sha256)
      (fun answer s => ∃ res, answer = .archived (.exported res) ∧
        ExportedSince settings orgId params exportId s₀ res s)
      (console settings (.archive (.createExport orgId params exportId))) s₀ := by
  have hLater : ∀ {res s s'}, ExportedSince settings orgId params exportId s₀ res s →
      s.GrowsBeside settings.sha256 True (exportKey orgId exportId params.format.value) s' →
      ExportedSince settings orgId params exportId s₀ res s' := by
    rintro res s s' ⟨s₁, s₂, now, epochs, hs₁, hs₂, hs, hExported⟩ hs'
    exact ⟨s₁, s₂, now, epochs, hs₁, hs₂, grows_trans hs hs'.grows, hExported.later hs'⟩
  refine Since.bind (P := fun answer s => ∃ res, answer = .exported res ∧
    ExportedSince settings orgId params exportId s₀ res s) ?_ ?_
  · refine Since.bind createExport_since fun res s hExported => Since.pure fun s' hs' => ?_
    exact ⟨res, rfl, hLater hExported hs'⟩
  · rintro answer s ⟨res, rfl, hExported⟩
    exact Since.pure fun s' hs' => ⟨res, rfl, hLater hExported hs'⟩

theorem gated_empty (now : Int) : Gated (World.initial now [] []).db where
  logged _ hi := (List.not_mem_nil hi).elim
  operation _ _ h := (List.not_mem_nil h.stored).elim
  once _ _ _ h _ := (List.not_mem_nil h.stored).elim
  issued _ ho := (List.not_mem_nil ho).elim

/-- **An export is exact.**  A JSON export that has been answered is downloaded, for as long as
nothing else stores an object under its key, as the document of what it asks for among the
operations of one moment between the request and the end, with the verdict of every intent.
With a float in it that JSON has no number for (an infinite loss) the download fails.  Other
organisations do not find it. -/
theorem export_exact (settings : ArchiveSettings) (now : Int) (orgId exportId : String)
    (params : CreateExportRequest) (before after : List (Event (consoleService settings)))
    (res : GetExportResponse) (hFormat : params.format = .json)
    (hUnshared : Unshared (exportKey orgId exportId "json") (before ++ after)) :
    let asked := consoleRun settings now before
    let p := consoleRun settings now
      (before ++ .request (.archive (.createExport orgId params exportId)) :: after)
    p.answerOf asked.threads.length = some (.archived (.exported res)) →
      ∃ ops verdicts epochs, asked.state.world.db.operations <+: ops ∧
        ops <+: p.state.world.db.operations ∧
        verdicts.map GovernanceVerdictRow.issued <+:
          p.state.world.db.governanceVerdicts.map GovernanceVerdictRow.issued ∧
        (∀ r ∈ exportedOperations orgId params ops, r.IsPreExec →
          ∃ v ∈ exportedVerdicts orgId params ops verdicts, v.recordId = r.operationId) ∧
        run (Routes.downloadExport orgId exportId) p.state =
          (p.state, Download.jsonResponse (.document
            (exportArtifact orgId params exportId res.exported.createdAt ops verdicts epochs))) ∧
        ∀ orgId', orgId' ≠ orgId → run (Routes.downloadExport orgId' exportId) p.state =
          (p.state, .error (.app (.withMessage 404 .notFound "Export not found."))) := by
  intro asked p hAnswer
  have hRun : p = asked.run (.request (.archive (.createExport orgId params exportId)) :: after) :=
    Pool.run_append _ _ _
  have hBeside := export_beside settings now hUnshared
    (.archive (.createExport orgId params exportId))
  have hSince := export_since settings orgId params exportId asked.state
  rw [hFormat] at hSince
  obtain ⟨res', hSame, s₁, s₂, time, epochs, hs₁, hs₂, hs, hExported⟩ :
      ∃ res', ConsoleResponse.archived (.exported res) = .archived (.exported res') ∧
        ExportedSince settings orgId params exportId asked.state res' p.state := by
    rw [hRun] at hAnswer ⊢
    exact Pool.run_answer hSince after hBeside hAnswer
  cases hSame
  have hIds : KeyUnique ExportModel.exportId p.state.exports :=
    (consoleRun_later settings now [] _).exportIds (keyUnique_nil _)
  have hGated : Gated s₁.world.db :=
    hs₁.db.gated ((consoleRun_later settings now [] before).db.gated (gated_empty now))
  have hRow : res.exported = exportRow orgId params exportId time := by rw [hExported.answer]
  obtain ⟨hFound, hOthers⟩ := findExport_eq hIds hExported.row
  rw [hRow] at hFound hOthers
  refine ⟨s₁.world.db.operations, s₂.world.db.governanceVerdicts, epochs, hs₁.db.operations,
    (hs₂.db.operations).trans hs.db.operations, hs.db.verdicts, fun r hr hPre => ?_, ?_, ?_⟩
  · exact exported_verdict orgId params hGated hs₂.db hr hPre
  · rw [hRow]
    have hObject := hExported.artifact trivial hFormat
    rw [hFormat] at hObject
    refine run_downloadExport hFound rfl ?_ (exportKey_ne_empty orgId exportId "json")
      (isReport_json orgId exportId) hObject
    show some (exportKey orgId exportId params.format.value) = _
    rw [hFormat]
    rfl
  · exact fun orgId' hOther => run_downloadExport_unknown (hOthers orgId' hOther)

namespace Sample

def wholeExport : CreateExportRequest where
  startTime := 0
  endTime := 2000
  format := .json

end Sample

theorem export_exact_sample :
    let p := consoleRun Sample.epochSettings 1000 (Sample.firstSubmission ++
      .request (.archive (.createExport "o" Sample.wholeExport "x1")) ::
        List.replicate 7 (.resume 2 .none))
    (∃ doc, run (Routes.downloadExport "o" "x1") p.state = (p.state, .ok (.document doc))) ∧
      run (Routes.downloadExport "other" "x1") p.state =
        (p.state, .error (.app (.withMessage 404 .notFound "Export not found."))) := by
  intro p
  have hUnshared : Unshared (exportKey "o" "x1" "json")
      (Sample.firstSubmission ++ List.replicate 7 (.resume 2 .none)) := by
    intro req hReq o hWrites
    simp only [Sample.firstSubmission, List.replicate, List.cons_append, List.nil_append,
      List.mem_cons, List.not_mem_nil, reduceCtorEq, false_or, or_false] at hReq
    rcases hReq with hReq | hReq
    · cases hReq
      exact hWrites.elim
    · cases hReq
      have hObject : o ∈ [StoredObject.envelope "o" "a" "op1", .receipt "o" "a" "op1"] := hWrites
      simp only [List.mem_cons, List.not_mem_nil, or_false] at hObject
      rcases hObject with rfl | rfl <;> decide
  have hAnswer : p.answerOf 2 = some (.archived (.exported
      { exported := exportRow "o" Sample.wholeExport "x1" 1000
        downloadUrl := some "/v1/exports/x1/download" })) := by
    decide +kernel
  obtain ⟨ops, verdicts, epochs, -, -, -, -, hDownload, hOthers⟩ := export_exact
    Sample.epochSettings 1000 "o" "x1" Sample.wholeExport Sample.firstSubmission
    (List.replicate 7 (.resume 2 .none)) _ rfl hUnshared hAnswer
  have hNumbers : (run (Routes.downloadExport "o" "x1") p.state).2.isOk = true := by
    decide +kernel
  refine ⟨?_, hOthers "other" (by decide)⟩
  rw [Download.jsonResponse_document] at hDownload
  split at hDownload
  · exact ⟨_, hDownload⟩
  · rw [hDownload] at hNumbers
    cases hNumbers

end AgentShield.Server
