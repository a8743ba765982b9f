import NlsSdk.Transport.Callback

/-!
# What callbacks leave alone

A callback changes the reconnection state, the retry count and the records of
what was said to the user and the pool. An event handed over by the node itself
also notes its code and may close the status. Nothing else of the node changes.
-/
namespace NlsSdk.Transport.ConnectNode

/-- `m` is `n` after calls into the listener. -/
def CalledBack (n m : ConnectNode) : Prop := ∃ r : Reporting, m = { n with toReporting := r }

/-- The same for events of the node's own, which may leave it closed. -/
def Reported (n m : ConnectNode) : Prop :=
  ∃ (r : Reporting) (nodeErrCode : ℤ) (workStatus : ConnectStatus),
    m = { n with toReporting := r, nodeErrCode, workStatus } ∧
    (workStatus = n.workStatus ∨ workStatus = .nodeClosed)

variable {e : Env} {n m k : ConnectNode}

theorem CalledBack.refl (n : ConnectNode) : CalledBack n n := ⟨_, rfl⟩

theorem CalledBack.trans (h : CalledBack n m) (h' : CalledBack m k) : CalledBack n k := by
  obtain ⟨r, rfl⟩ := h
  obtain ⟨r', rfl⟩ := h'
  exact ⟨r', rfl⟩

theorem Reported.refl (n : ConnectNode) : Reported n n := ⟨_, _, _, rfl, Or.inl rfl⟩

theorem Reported.trans (h : Reported n m) (h' : Reported m k) : Reported n k := by
  obtain ⟨r, err, st, rfl, hst⟩ := h
  obtain ⟨r', err', st', rfl, hst'⟩ := h'
  refine ⟨r', err', st', rfl, ?_⟩
  rcases hst' with same | closed
  · exact same.symm ▸ hst
  · exact Or.inr closed

theorem CalledBack.reported (h : CalledBack n m) : Reported n m := by
  obtain ⟨r, rfl⟩ := h
  exact ⟨r, _, _, rfl, Or.inl rfl⟩

lemma updateTwIndexOffset_calledBack (n : ConnectNode) (event : NlsEvent) :
    CalledBack n (n.updateTwIndexOffset event) := by
  unfold updateTwIndexOffset
  split_ifs <;> exact ⟨_, rfl⟩

lemma noteInterruption_calledBack (e : Env) (n : ConnectNode) (type : EventType) (code : ℤ) :
    CalledBack n (n.noteInterruption e type code) := by
  unfold noteInterruption
  split_ifs <;> exact ⟨_, rfl⟩

lemma ignoreCallbackWhenReconnecting_calledBack (e : Env) (n : ConnectNode) (type : EventType)
    (code : ℤ) : CalledBack n (n.ignoreCallbackWhenReconnecting e type code).1 := by
  have noted := noteInterruption_calledBack e n type code
  simp only [ignoreCallbackWhenReconnecting]
  split_ifs
  · exact noted
  · exact noted.trans ⟨_, rfl⟩
  · exact noted
  · exact CalledBack.refl n

lemma nodeReconnecting_calledBack (e : Env) (n : ConnectNode) :
    CalledBack n (n.nodeReconnecting e) := by
  unfold nodeReconnecting
  split_ifs <;> exact ⟨_, rfl⟩

lemma afterCallback_calledBack (e : Env) (n : ConnectNode) (type : EventType) (ignored : Bool) :
    CalledBack n (n.afterCallback e type ignored) := by
  simp only [afterCallback]
  split_ifs
  · exact (nodeReconnecting_calledBack e n).trans ⟨_, rfl⟩
  · exact (nodeReconnecting_calledBack e n).trans ⟨_, rfl⟩
  · exact ⟨_, rfl⟩
  · exact CalledBack.refl n

theorem handlerFrame_calledBack (e : Env) (n : ConnectNode) (event : NlsEvent) :
    CalledBack n (n.handlerFrame e event).1 := by
  have told := (updateTwIndexOffset_calledBack n event).trans
    (ignoreCallbackWhenReconnecting_calledBack e _ event.msgType event.statusCode)
  simp only [handlerFrame]
  split_ifs
  · exact CalledBack.refl n
  · exact CalledBack.refl n
  · exact (told.trans ⟨_, rfl⟩).trans (afterCallback_calledBack e _ _ _)
  · exact (told.trans ⟨_, rfl⟩).trans (afterCallback_calledBack e _ _ _)

lemma noteErrorCode_reported (n : ConnectNode) (code : ℤ) : Reported n (n.noteErrorCode code) := by
  unfold noteErrorCode
  split_ifs
  · exact Reported.refl n
  · exact ⟨_, _, _, rfl, Or.inl rfl⟩

lemma report_reported (e : Env) (n : ConnectNode) (event : NlsEvent) :
    Reported n (n.report e event) := by
  have handled := (handlerFrame_calledBack e n event).reported
  simp only [report]
  split_ifs
  · exact Reported.refl n
  · exact handled.trans ⟨_, _, _, rfl, Or.inr rfl⟩
  · exact handled

theorem handlerEvent_reported (e : Env) (n : ConnectNode) (msg : Bytes) (code : ℤ)
    (type : EventType) : Reported n (n.handlerEvent e msg code type) := by
  unfold handlerEvent
  split_ifs
  · exact Reported.refl n
  · exact (noteErrorCode_reported n code).trans (report_reported e _ _)

theorem handlerClose_reported (e : Env) (n : ConnectNode) : Reported n (n.handlerClose e) :=
  handlerEvent_reported e n _ _ _

theorem handlerTaskFailedEvent_reported (e : Env) (n : ConnectNode) (info : Bytes) (code : ℤ) :
    Reported n (n.handlerTaskFailedEvent e info code) := by
  simp only [handlerTaskFailedEvent]
  exact (handlerEvent_reported e n _ _ _).trans (handlerClose_reported e _)

end NlsSdk.Transport.ConnectNode
