import Unchain.Context.ToolExecutor

/-!
Which commands each piece of a durable tool execution may issue.

Two bounds are enough for what follows. A quiet piece neither appends to the
journal nor starts a handler: everything up to the authorization, and the
validation after it. A passive piece starts no handler: everything that follows
the handler, and the paths that reuse or finalize a stored completion.

An authorization that was rebuilt from the journal never says to execute.
-/

namespace Unchain.Context

open Lib Lib.Process Python Journal

def Quiet : Command → Prop
  | .append _ => False
  | .startHandler _ _ _ _ => False
  | _ => True

def Passive : Command → Prop
  | .startHandler _ _ _ _ => False
  | _ => True

theorem passive_of_quiet (c : Command) (h : Quiet c) : Passive c := by
  cases c <;> simp_all [Quiet, Passive]

theorem only_passive {α : Type} {p : Exec α} (h : p.Only Quiet) : p.Only Passive :=
  only_mono h passive_of_quiet

variable {executor : DurableToolExecutor} {request : DurableToolExecutionRequest}
  {boundary : DurableToolBoundary} {recovery : ToolSideEffectRecovery}
  {authorization : DurableToolAuthorization} {currentFence : ExecutionFence} {call : ToolCall}
  {recorded : DurableToolExecutionSubject} (host : Host)

section Quiet

theorem readFull_quiet (artifact : ArtifactRef) : (Exec.readFull artifact).Only Quiet :=
  ⟨trivial, fun _ => only_lift _⟩

theorem verifyCompletion_quiet (a : ToolCompletionArtifactization) :
    (Exec.verifyToolCompletionArtifactization a).Only Quiet :=
  ⟨trivial, fun _ => only_lift _⟩

theorem loadVerifiedSubagentState_quiet (transition : StateTransition) :
    (Exec.loadVerifiedSubagentState transition).Only Quiet :=
  ⟨trivial, fun _ => only_lift _⟩

theorem recoverToolSideEffect_quiet (attempt : AttemptRef) (callId : String) :
    (recoverToolSideEffect host attempt callId).Only Quiet := by
  refine only_lift_bind fun _ => ?_
  refine only_bind ⟨trivial, fun _ => only_lift _⟩ fun _ => ?_
  exact only_raiseIf_bind fun _ => only_pure _

theorem assertLiveGuard_quiet : (assertLiveGuard executor request).Only Quiet := by
  refine only_bind ⟨trivial, fun _ => only_lift _⟩ fun _ => ?_
  refine only_raiseIf_bind fun _ => ?_
  refine only_raiseIf_bind fun _ => ?_
  exact only_raiseIf_bind fun _ => only_pure _

theorem validateInvocation_quiet (invocation : DurableToolInvocation) :
    (validateInvocation host executor request invocation).Only Quiet := by
  refine only_bind ⟨trivial, fun _ => trivial⟩ fun popped => ?_
  cases popped with
  | none => exact only_raise _
  | some binding =>
    refine only_lift_bind fun _ => ?_
    exact only_raiseIf_bind fun _ => only_pure _

theorem bindFresh_quiet (invocation : Option DurableToolInvocation) :
    (bindFresh host executor request invocation recovery).Only Quiet := by
  unfold bindFresh
  split
  · cases invocation with
    | none => exact only_raise _
    | some invocation =>
      exact only_bind (validateInvocation_quiet host invocation) fun _ =>
        only_pure _
  · exact only_pure _

theorem readVerifiedCompletion_quiet (artifact : ArtifactRef) :
    (readVerifiedCompletion host artifact).Only Quiet := by
  refine only_bind (readFull_quiet artifact) fun content => ?_
  cases content.json with
  | none => exact only_raise _
  | some decoded =>
    refine only_lift_bind fun _ => ?_
    exact only_bind (verifyCompletion_quiet _) fun _ => only_pure _

theorem readInline_quiet (artifact : ArtifactRef) : (readInline artifact).Only Quiet := by
  unfold readInline
  split
  · exact only_bind (only_mapError.mpr (readFull_quiet artifact)) fun _ => only_pure _
  · exact only_pure _

theorem forSome_only {α : Type} {P : Command → Prop} {body : α → Exec Unit}
    (h : ∀ a, (body a).Only P) (x : Option α) : (forSome body x).Only P := by
  cases x with
  | none => exact only_pure _
  | some a => exact h a

theorem finalizeAuthorization_quiet :
    (finalizeAuthorization host boundary recovery call recorded).Only Quiet := by
  unfold finalizeAuthorization
  cases recovery.sealedEvent with
  | none => exact only_raise _
  | some sealedEvent =>
    refine only_lift_bind fun _ => only_lift_bind fun _ => ?_
    refine only_bind (only_mapError.mpr (readVerifiedCompletion_quiet host _)) fun _ => ?_
    refine only_lift_bind fun envelope => ?_
    cases envelope.transition with
    | none => exact only_raise _
    | some transition =>
      refine only_lift_bind fun _ => only_lift_bind fun _ => ?_
      refine only_lift_bind fun _ => ?_
      refine only_bind (only_mapError.mpr (readFull_quiet _)) fun content => ?_
      cases content.json with
      | none => exact only_raise _
      | some decoded =>
        refine only_raiseIf_bind fun _ => ?_
        exact only_lift_bind fun _ => only_lift _

theorem verifyStoredCompletion_quiet (resultArtifact : ArtifactRef) (visibleResult : Value)
    (completionArtifact : ArtifactRef) :
    (verifyStoredCompletion host boundary recovery call recorded resultArtifact visibleResult
      completionArtifact).Only Quiet := by
  refine only_bind (only_mapError.mpr (readVerifiedCompletion_quiet host _)) fun _ => ?_
  refine only_lift_bind fun verified => ?_
  dsimp only
  split
  · exact only_raiseIf _ _
  · refine only_raiseIf_bind fun _ => only_lift_bind fun _ => ?_
    exact only_lift_bind fun _ => only_lift _

theorem reuseAuthorization_quiet :
    (reuseAuthorization host boundary recovery call recorded).Only Quiet := by
  refine only_lift_bind fun _ => ?_
  split
  · exact only_raise _
  · exact only_raise _
  · refine only_raiseIf_bind fun _ => only_lift_bind fun _ => ?_
    refine only_raiseIf_bind fun _ => ?_
    refine only_bind (readInline_quiet _) fun _ => ?_
    refine only_lift_bind fun _ => only_lift_bind fun _ => ?_
    refine only_bind (forSome_only (verifyStoredCompletion_quiet host _ _) _) fun _ => ?_
    exact only_lift_bind fun _ => only_lift _

theorem authorizationFromRecovery_quiet :
    (authorizationFromRecovery host boundary recovery call).Only Quiet := by
  refine only_raiseIf_bind fun _ => only_lift_bind fun _ => ?_
  refine only_lift_bind fun recorded => ?_
  cases recovery.state with
  | notStarted | uncertainAfterStart | corrupt => exact only_raise _
  | sealedCompletionFinalizable =>
    exact finalizeAuthorization_quiet host
  | terminalResultReusable => exact reuseAuthorization_quiet host

theorem recoveredAuthorization_quiet (canonical : DurableToolAuthorization) (changed : String) :
    (recoveredAuthorization host executor request recovery canonical changed).Only Quiet := by
  refine only_bind (authorizationFromRecovery_quiet host) fun _ => ?_
  refine only_lift_bind fun _ => only_lift_bind fun _ => ?_
  exact only_raiseIf_bind fun _ => only_pure _

theorem validateAuthorization_quiet :
    (validateAuthorization host executor request authorization currentFence).Only Quiet := by
  refine only_lift_bind fun canonical => only_raiseIf_bind fun _ => ?_
  refine only_bind (recoverToolSideEffect_quiet host _ _) fun recovery => ?_
  cases canonical.disposition with
  | execute =>
    refine only_raiseIf_bind fun _ => only_lift_bind fun _ => ?_
    refine only_lift_bind fun _ => only_raiseIf_bind fun _ => ?_
    refine only_lift_bind fun _ => only_lift_bind fun _ => ?_
    refine only_lift_bind fun _ => ?_
    exact only_raiseIf_bind fun _ => only_pure _
  | finalize | reuse =>
    exact only_raiseIf_bind fun _ => recoveredAuthorization_quiet host _ _

theorem recoverCompletion_quiet :
    (recoverCompletion host executor request authorization currentFence).Only Quiet := by
  unfold recoverCompletion
  split
  · refine only_raiseIf_bind fun _ => ?_
    refine only_bind (readFull_quiet _) fun content => only_raiseIf_bind fun _ => ?_
    cases content.json with
    | none => exact only_raise _
    | some decoded =>
      refine only_lift_bind fun envelope => ?_
      refine only_bind (forSome_only loadVerifiedSubagentState_quiet _) fun _ => ?_
      refine only_lift_bind fun _ => only_raiseIf_bind fun _ => ?_
      exact only_bind (recoverToolSideEffect_quiet host _ _) fun _ => only_lift _
  · exact only_raise _

end Quiet

section Passive

theorem appendProjected_passive (attempt : AttemptRef) (draft : SemanticEventDraft) :
    (appendProjected host attempt draft).Only Passive := by
  refine only_raiseIf_bind fun _ => only_raiseIf_bind fun _ => ?_
  refine only_lift_bind fun _ => only_bind ⟨trivial, fun _ => only_lift _⟩ fun _ => ?_
  exact only_raiseIf_bind fun _ => only_pure _

theorem authorizeExecution_passive (toolName callId : String) (iteration : Int)
    (subject : DurableToolExecutionSubject) :
    (authorizeExecution host boundary toolName callId iteration subject).Only Passive := by
  have recover := fun callId => only_passive
    (recoverToolSideEffect_quiet host boundary.attempt callId)
  have fromRecovery {recovery : ToolSideEffectRecovery} {call : ToolCall} :
      (authorizationFromRecovery host boundary recovery call).Only Passive :=
    only_passive (authorizationFromRecovery_quiet host)
  refine only_lift_bind fun _ => only_lift_bind fun call => ?_
  refine only_lift_bind fun _ => only_bind (recover call) fun recovery => ?_
  refine only_lift_bind fun _ => ?_
  split
  · refine only_lift_bind fun draft => ?_
    refine only_bind (only_mapError.mpr (appendProjected_passive host _ draft)) fun _ => ?_
    split
    · exact only_bind (recover _) fun _ => fromRecovery
    · exact only_lift _
  · exact fromRecovery

theorem persistSealedCompletion_passive (resultArtifact completionArtifact : ArtifactRef)
    (transition : StateTransition) :
    (persistSealedCompletion host boundary authorization resultArtifact completionArtifact
      transition).Only Passive := by
  refine only_raiseIf_bind fun _ => only_lift_bind fun _ => ?_
  refine only_raiseIf_bind fun _ => ?_
  refine only_bind (only_passive (recoverToolSideEffect_quiet host _ _)) fun recovery => ?_
  cases recovery.state with
  | sealedCompletionFinalizable => exact only_lift_bind fun _ => only_lift _
  | uncertainAfterStart =>
    refine only_lift_bind fun _ => only_lift_bind fun _ => ?_
    exact only_bind (only_mapError.mpr (appendProjected_passive host _ _)) fun _ => only_pure _
  | notStarted | terminalResultReusable | corrupt => exact only_raise _

theorem readPersistedCompletion_quiet (artifact : Option ArtifactRef) :
    (readPersistedCompletion host artifact).Only Quiet := by
  cases artifact with
  | none => exact only_pure _
  | some artifact =>
    exact only_bind (only_mapError.mpr (readVerifiedCompletion_quiet host artifact)) fun _ =>
      only_pure _

theorem resultReceipt_quiet (appended : JournalAppendResult) :
    (resultReceipt host boundary appended authorization).Only Quiet := by
  refine only_raiseIf_bind fun _ => only_lift_bind fun _ => ?_
  refine only_lift_bind fun _ => ?_
  refine only_bind (only_mapError.mpr (readFull_quiet _)) fun _ => ?_
  refine only_bind (readPersistedCompletion_quiet host _) fun _ => ?_
  refine only_lift_bind fun _ => only_lift_bind fun _ => ?_
  refine only_bind (forSome_only (fun _ => only_lift_bind fun _ => only_pure _) _) fun _ => ?_
  exact only_lift_bind fun _ => only_lift _

theorem reuseStoredResult_quiet (artifact completionArtifact : ArtifactRef) :
    (reuseStoredResult host boundary recovery authorization artifact completionArtifact).Only
      Quiet := by
  refine only_bind (authorizationFromRecovery_quiet host) fun _ => ?_
  refine only_raiseIf_bind fun _ => ?_
  cases recovery.resultEvent with
  | none => exact only_raise _
  | some event => exact only_lift_bind fun _ => only_lift _

theorem projectPreparedToolResult_quiet (attempt : AttemptRef) (toolName callId : String)
    (iteration : Int) (policy : String) (subject : DurableToolExecutionSubject)
    (artifactization : ToolResultArtifactization) (completionArtifact : ArtifactRef) :
    (projectPreparedToolResult host attempt toolName callId iteration policy subject
      artifactization completionArtifact).Only Quiet := by
  refine only_raiseIf_bind fun _ => only_lift_bind fun fields => ?_
  refine only_bind ⟨trivial, fun _ => only_lift _⟩ fun _ => ?_
  exact only_lift_bind fun _ => only_lift _

theorem persistPreparedResult_passive (artifactization : ToolResultArtifactization)
    (completionArtifactization : ToolCompletionArtifactization) (policy : String) :
    (persistPreparedResult host boundary authorization artifactization completionArtifactization
      policy).Only Passive := by
  refine only_raiseIf_bind fun _ => only_raiseIf_bind fun _ => ?_
  refine only_bind (only_mapError.mpr ⟨trivial, fun _ => only_lift _⟩) fun _ => ?_
  refine only_bind (only_mapError.mpr (only_passive (verifyCompletion_quiet _))) fun _ => ?_
  refine only_lift_bind fun _ => ?_
  refine only_bind (only_passive (recoverToolSideEffect_quiet host _ _)) fun recovery => ?_
  refine only_lift_bind fun _ => ?_
  split
  · exact only_passive (reuseStoredResult_quiet host _ _)
  · refine only_raiseIf_bind fun _ => only_lift_bind fun _ => ?_
    refine only_lift_bind fun _ => ?_
    refine only_bind (only_passive (projectPreparedToolResult_quiet host _ _ _ _ _ _ _ _))
      fun _ => ?_
    refine only_bind (only_mapError.mpr (appendProjected_passive host _ _)) fun _ => ?_
    exact only_passive (resultReceipt_quiet host _)

theorem validateResultReceipt_quiet (receipt : DurableToolResultReceipt)
    (resultArtifact completionArtifact : ArtifactRef) (envelope : DurableToolCompletionEnvelope) :
    (validateResultReceipt host executor request authorization receipt resultArtifact
      completionArtifact envelope).Only Quiet := by
  refine only_raiseIf_bind fun _ => ?_
  refine only_bind (recoverToolSideEffect_quiet host _ _) fun _ => ?_
  refine only_raiseIf_bind fun _ => ?_
  refine only_bind (authorizationFromRecovery_quiet host) fun _ => ?_
  refine only_lift_bind fun _ => only_lift_bind fun _ => ?_
  refine only_lift_bind fun _ => only_lift_bind fun _ => ?_
  exact only_raiseIf_bind fun _ => only_pure _

theorem finalizeSealedCompletion_passive :
    (finalizeSealedCompletion host executor request authorization currentFence).Only Passive := by
  unfold finalizeSealedCompletion
  split
  · refine only_bind (only_passive (readFull_quiet _)) fun content => ?_
    cases content.json with
    | none => exact only_raise _
    | some decoded =>
      refine only_lift_bind fun envelope => only_lift_bind fun _ => ?_
      cases envelope.transition with
      | none => exact only_raise _
      | some transition =>
        refine only_raiseIf_bind fun _ => ?_
        refine only_bind (only_passive (loadVerifiedSubagentState_quiet _)) fun _ => ?_
        refine only_bind (persistPreparedResult_passive host _ _ _) fun _ => ?_
        refine only_bind (only_passive (validateResultReceipt_quiet host _ _ _ _)) fun _ => ?_
        exact only_lift _
  · exact only_raise _

theorem persistTransition_quiet (subjectSha256 : String) (draft : Option StateTransitionDraft) :
    (persistTransition host executor request subjectSha256 draft).Only Quiet := by
  cases draft with
  | none => exact only_pure _
  | some draft =>
    refine only_bind ⟨trivial, fun _ => only_lift _⟩ fun _ => ?_
    refine only_lift_bind fun _ => only_lift_bind fun _ => ?_
    exact only_bind (loadVerifiedSubagentState_quiet _) fun _ => only_pure _

theorem persistCompletion_passive (draft : DurableToolCompletionDraft) :
    (persistCompletion host executor request authorization draft).Only Passive := by
  have guard : (assertLiveGuard executor request).Only Passive := only_passive assertLiveGuard_quiet
  refine only_lift_bind fun _ => only_bind ⟨trivial, fun _ => only_lift _⟩ fun _ => ?_
  refine only_bind ⟨trivial, fun _ => only_lift _⟩ fun _ => ?_
  refine only_bind (only_passive (persistTransition_quiet host _ _)) fun _ => ?_
  refine only_lift_bind fun _ => only_bind ⟨trivial, fun _ => only_lift _⟩ fun _ => ?_
  refine only_bind (only_passive (verifyCompletion_quiet _)) fun _ => ?_
  refine only_lift_bind fun _ => only_lift_bind fun _ => ?_
  refine only_lift_bind fun _ => only_raiseIf_bind fun _ => ?_
  refine only_bind guard fun _ => ?_
  refine only_bind (forSome_only (fun _ => ?_) _) fun _ => ?_
  · refine only_bind (persistSealedCompletion_passive host _ _ _) fun _ => ?_
    exact only_bind guard fun _ => only_pure _
  · refine only_bind (persistPreparedResult_passive host _ _ _) fun _ => ?_
    refine only_bind (only_passive (validateResultReceipt_quiet host _ _ _ _)) fun _ => ?_
    refine only_lift_bind fun _ => only_raiseIf_bind fun _ => ?_
    exact only_bind guard fun _ => only_lift _

end Passive

/-! ### Dispositions -/

section Dispositions

theorem finalizeAuthorization_returns :
    (finalizeAuthorization host boundary recovery call recorded).Returns
      fun a => a.disposition ≠ .execute := by
  unfold finalizeAuthorization
  cases recovery.sealedEvent with
  | none => trivial
  | some sealedEvent =>
    refine returns_last fun _ => returns_last fun _ => returns_last fun _ => ?_
    refine returns_last fun envelope => ?_
    cases envelope.transition with
    | none => trivial
    | some transition =>
      refine returns_last fun _ => returns_last fun _ => returns_last fun _ => ?_
      refine returns_last fun content => ?_
      cases content.json with
      | none => trivial
      | some decoded =>
        refine returns_last fun _ => returns_last fun _ => returns_lift fun a built => ?_
        rw [DurableToolAuthorization.disposition_of_make host built]
        decide

theorem reuseAuthorization_returns :
    (reuseAuthorization host boundary recovery call recorded).Returns
      fun a => a.disposition ≠ .execute := by
  refine returns_last fun _ => ?_
  split
  · trivial
  · trivial
  · refine returns_last fun _ => returns_last fun _ => returns_last fun _ => ?_
    refine returns_last fun _ => returns_last fun _ => returns_last fun _ => ?_
    refine returns_last fun _ => returns_last fun _ => returns_lift fun a built => ?_
    rw [DurableToolAuthorization.disposition_of_make host built]
    decide

/-- What is recovered from the journal is reused or finalized, never executed. -/
theorem authorizationFromRecovery_returns :
    (authorizationFromRecovery host boundary recovery call).Returns
      fun a => a.disposition ≠ .execute := by
  refine returns_last fun _ => returns_last fun _ => returns_last fun recorded => ?_
  cases recovery.state with
  | notStarted | uncertainAfterStart | corrupt => trivial
  | sealedCompletionFinalizable =>
    exact finalizeAuthorization_returns host
  | terminalResultReusable => exact reuseAuthorization_returns host

theorem disposition_of_canonical {canonical : DurableToolAuthorization} {authority : Nat}
    (h : canonicalAuthorization host authorization authority = .ok canonical) :
    canonical.disposition = authorization.disposition := by
  unfold canonicalAuthorization at h
  split at h
  · cases h
  · obtain ⟨_, _, h⟩ := Effect.bind_ok h
    exact DurableToolAuthorization.disposition_of_make host (Effect.except_mapError_ok h)

theorem recoveredAuthorization_returns (canonical : DurableToolAuthorization) (changed : String) :
    (recoveredAuthorization host executor request recovery canonical changed).Returns
      fun a => a.disposition ≠ .execute := by
  refine returns_bind (authorizationFromRecovery_returns host) fun recovered other => ?_
  refine returns_bind (returns_lift (Q := fun a => a.disposition ≠ .execute) fun a built => ?_)
    fun expected ne => ?_
  · rw [disposition_of_canonical host built]
    exact other
  · refine returns_last fun _ => returns_last fun _ => ?_
    exact ne

theorem validateAuthorization_returns :
    (validateAuthorization host executor request authorization currentFence).Returns
      fun a => a.disposition = .execute → authorization.disposition = .execute := by
  refine returns_bind (returns_lift (Q := fun c => c.disposition = authorization.disposition)
    fun c built => ?_) fun canonical same => ?_
  · exact disposition_of_canonical host (Effect.except_mapError_ok built)
  · refine returns_last fun _ => returns_last fun recovery => ?_
    rw [← same]
    cases canonical.disposition with
    | execute => exact returns_mono (returns_true _) fun _ _ _ => rfl
    | finalize | reuse =>
      refine returns_last fun _ => ?_
      exact returns_mono (recoveredAuthorization_returns host _ _) fun _ ne eq =>
        absurd eq ne

end Dispositions

end Unchain.Context
