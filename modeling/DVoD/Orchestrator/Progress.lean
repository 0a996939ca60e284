import DVoD.Orchestrator.Routes

/-!
# Sessions that no request continues

Every route looks at the current state of a session first, and an active session is the
only one that it goes on with.  A purchase or a failover that stops between two of its
transitions leaves the session in a state from which the table of transitions allows
more, and no route records more: `continues_iff`.
-/

namespace DVoD.Orchestrator

open DVoD.Async DVoD.Async.System DVoD.Session Sample

section Run

variable {config : Config} {now : Instant} {requests : List (Request × Trace × Reply)}
  {s s' : Memory × Env} {sessionId : String} {request : Request} {tr : Trace} {reply : Reply}

/-- Some request records a further row of the session, if nothing that it awaits fails. -/
def Continues (config : Config) (s : Memory × Env) (sessionId : String) : Prop :=
  ∃ request, (∃ tr reply s', Runs config (handle config request) s tr reply s' ∧ NoFurtherFailure tr) ∧
    ∀ tr reply s', Runs config (handle config request) s tr reply s' → NoFurtherFailure tr →
      ∃ new, new ≠ [] ∧
        s'.2.events.getSessionEvents sessionId = s.2.events.getSessionEvents sessionId ++ new

/-! ### An active session -/

section Active

variable {a : Except Thrown Reply}

def IsQuery (c : Command) : Prop := IsSelect c ∨ ∃ row, c = .insertEvent row

theorem answer_ne_none (env : Env) {c : Command} (hc : IsQuery c) : (answer config {} env c).1 ≠ none := by
  rcases hc with hselect | ⟨row, rfl⟩
  · cases c <;> simp_all [IsSelect, answer, Oracle.select]
  · simp [answer]

theorem runs_endSession (h : Runs config (endSession sessionId).run s tr a s')
    (hactive : s.2.events.getCurrentState sessionId = some .active) :
    (∀ message, a ≠ .error (.invalidTransition message)) ∧ (∀ ans ∈ tr, IsQuery ans.1) ∧
      (Undisturbed tr → ∃ new, new ≠ [] ∧
        s'.2.events.getSessionEvents sessionId = s.2.events.getSessionEvents sessionId ++ new) := by
  have hchained : Chained (lastState none (s.2.events.getSessionEvents sessionId))
      [(.expiredNormal, some "ended by user")] := by
    rw [lastState_getSessionEvents, hactive]
    exact ⟨rfl, trivial⟩
  rw [endSession_eq] at h
  rcases evaluates_bind_run.mp h with ⟨e, rfl, hrecord⟩ | ⟨tr₁, _, s₁, tr₂, hrecord, hdone, rfl⟩
  · obtain ⟨-, new, happends, houtcomes⟩ := runs_recordAll hrecord
    refine ⟨?_, houtcomes.queries, ?_⟩
    · intro message heq
      exact houtcomes.not_invalid hchained message (by simpa using heq)
    · intro hun
      cases houtcomes.ok_of_chained hun hchained
  · obtain ⟨-, new, happends, houtcomes⟩ := runs_recordAll hrecord
    obtain ⟨rfl, rfl, rfl⟩ := evaluates_done.mp hdone
    rw [List.append_nil]
    refine ⟨by simp, houtcomes.queries, fun _ => ⟨new, ?_, happends.self⟩⟩
    rintro rfl
    cases (houtcomes.of_ok rfl).2

theorem runs_endSessionRoute_active (h : Runs config (endSessionRoute sessionId).run s tr a s')
    (hactive : s.2.events.getCurrentState sessionId = some .active) :
    (∀ ans ∈ tr, IsQuery ans.1) ∧ (Undisturbed tr → ∃ new, new ≠ [] ∧
        s'.2.events.getSessionEvents sessionId = s.2.events.getSessionEvents sessionId ++ new) := by
  have hselect (r : Answer (.selectToState sessionId)) :
      ∀ ans ∈ [(⟨.selectToState sessionId, r⟩ : Answered Answer)], IsQuery ans.1 :=
    List.forall_mem_singleton.mpr (Or.inl trivial)
  rcases evaluates_bind_run.mp h with ⟨e, rfl, hread⟩ | ⟨tr₁, x, s₁, tr₂, hread, hrest, rfl⟩
  · have hselects := runs_getCurrentState hread
    obtain ⟨r, rfl⟩ := hselects.trace
    refine ⟨hselect r, ?_⟩
    intro hun
    rcases hselects.outcome with ⟨-, herr⟩ | ⟨hdisturbed, -⟩
    · cases herr
    · exact absurd hun hdisturbed
  · have hselects := runs_getCurrentState hread
    obtain ⟨r, rfl⟩ := hselects.trace
    obtain ⟨-, hx⟩ | ⟨-, herr⟩ := hselects.outcome
    swap
    · cases herr
    obtain rfl := Except.ok.inj hx
    rw [if_neg (not_not.mpr hactive)] at hrest
    obtain ⟨b, hend, -⟩ := runs_conflict hrest
    have hevents := hselects.unchanged.events
    obtain ⟨-, hqueries, hgrows⟩ := runs_endSession hend (by rw [hevents]; exact hactive)
    rw [hevents] at hgrows
    refine ⟨List.forall_mem_append.mpr ⟨hselect r, hqueries⟩, fun hun => ?_⟩
    exact hgrows (undisturbed_append.mp hun).2

/-- It can be ended. -/
theorem continues_of_active (hactive : s.2.events.getCurrentState sessionId = some .active) :
    Continues config s sessionId := by
  refine ⟨.endSession sessionId, ?_, ?_⟩
  · obtain ⟨tr, reply, s', hruns, hanswers⟩ := exists_evaluates (S := system config) ({} : Oracle)
      (handle config (.endSession sessionId)) s
    obtain ⟨a, hroute, -⟩ := runs_respond hruns
    have hqueries := (runs_endSessionRoute_active hroute hactive).1
    refine ⟨tr, reply, s', hruns, ?_, ?_⟩
    · intro ans hans
      obtain ⟨env, henv⟩ := hanswers ans hans
      rw [henv]
      exact answer_ne_none env (hqueries ans hans)
    · intro tier hmem
      rcases hqueries _ hmem with hselect | ⟨row, hrow⟩
      · cases hselect
      · cases hrow
  · intro tr reply s' hruns hno
    obtain ⟨a, hroute, -⟩ := runs_respond hruns
    exact (runs_endSessionRoute_active hroute hactive).2 hno.1

end Active

/-! ### Any other session -/

theorem log_of_not_active (h : Runs config (handle config request) s tr reply s')
    (hbegun : s.2.events.Begun) (hrecorded : s.2.events.getSessionEvents sessionId ≠ [])
    (hnot : s.2.events.getCurrentState sessionId ≠ some .active) :
    s'.2.events.getSessionEvents sessionId = s.2.events.getSessionEvents sessionId := by
  obtain ⟨new, hlog, hchange⟩ := runs_change h hbegun sessionId
  cases hchange with
  | nothing => rw [hlog, List.append_nil]
  | purchase c hnone => exact absurd hnone hrecorded
  | failover _ hactive => exact absurd hactive hnot
  | ended _ hactive => exact absurd hactive hnot

theorem continues_iff_active (hrun : SerialRun config now requests s)
    (hrecorded : s.2.events.getSessionEvents sessionId ≠ []) :
    Continues config s sessionId ↔ s.2.events.getCurrentState sessionId = some .active := by
  constructor
  · rintro ⟨request, ⟨tr, reply, s', hruns, hno⟩, hall⟩
    by_contra hnot
    obtain ⟨new, hne, hlog⟩ := hall tr reply s' hruns hno
    rw [log_of_not_active hruns hrun.begun hrecorded hnot] at hlog
    exact hne (List.self_eq_append_right.mp hlog)
  · exact continues_of_active

theorem log_of_serial {requests' : List ((system config).Request × Trace × (system config).Reply)}
    (hrun : SerialRun config now requests s) (h : Serial (system config) s requests' s')
    (hrecorded : s.2.events.getSessionEvents sessionId ≠ [])
    (hnot : s.2.events.getCurrentState sessionId ≠ some .active) :
    s'.2.events.getSessionEvents sessionId = s.2.events.getSessionEvents sessionId := by
  refine h.invariant (P := fun _ s' =>
    s'.2.events.getSessionEvents sessionId = s.2.events.getSessionEvents sessionId) rfl ?_ ?_
  · intro _ s₁ event _ hlog
    have hevents := (happen_unchanged event s₁).events
    exact (congrArg (fun t : SessionEvents => t.getSessionEvents sessionId) hevents).trans hlog
  · intro requests₁ s₁ request tr reply s₂ hbefore hlog hruns
    have hbegun := SerialRun.begun (Serial.append hrun hbefore)
    rw [log_of_not_active hruns hbegun (by rw [hlog]; exact hrecorded), hlog]
    rw [← lastState_getSessionEvents, hlog, lastState_getSessionEvents]
    exact hnot

/-! ### Requests that are not interrupted -/

/-- The request inserts nothing, or nothing that it awaits fails and discovery names a
    relay other than one that failed. -/
def Completes (tr : Trace) : Prop :=
  NoInserts tr ∨ Undisturbed tr ∧ ∀ sessionId failed, ⟨.selectRelay sessionId, some (some failed)⟩ ∈ tr →
    FindsAnother failed tr

/-- The session has no row, is active, or was ended. -/
def Settled (t : SessionEvents) (sessionId : String) : Prop :=
  t.getSessionEvents sessionId = [] ∨ t.getCurrentState sessionId = some .active ∨
    t.getCurrentState sessionId = some .expiredNormal

theorem Settled.of_log {t t' : SessionEvents} (h : Settled t sessionId)
    (hlog : t'.getSessionEvents sessionId = t.getSessionEvents sessionId) : Settled t' sessionId := by
  unfold Settled SessionEvents.getCurrentState at *
  rwa [hlog]

theorem settled_of_states {t t' : SessionEvents} {new : List SessionEventRow}
    (hlog : t'.getSessionEvents sessionId = t.getSessionEvents sessionId ++ new)
    (hlast : (new.map SessionEventRow.toState).getLast? = some .active ∨
      (new.map SessionEventRow.toState).getLast? = some .expiredNormal) : Settled t' sessionId := by
  have hne : new ≠ [] := by
    rintro rfl
    simp at hlast
  refine Or.inr ?_
  rwa [← lastState_getSessionEvents, hlog, lastState_append hne]

/-- Only an `INSERT` changes the table. -/
theorem events_of_noInserts {α : Type} {p : Process α} {a : α} (h : Runs config p s tr a s')
    (hno : NoInserts tr) : s'.2.events = s.2.events := by
  induction h with
  | done a s => rfl
  | sync _ ih => exact ih hno
  | @await c k s m e r e' tr a s' events o hes hanswer _ ih =>
    rw [ih fun ans hans => hno ans (List.mem_cons_of_mem _ hans)]
    have hevents := (happenAll_unchanged events s).events
    rw [hes] at hevents
    rw [← hevents]
    obtain hsame | ⟨row, hrow, -⟩ := answer_cases config o e c
    · have he : e' = e := (congrArg Prod.snd hanswer).symm.trans hsame
      rw [he]
    · exact absurd hrow (hno _ List.mem_cons_self row)

theorem settled_step (h : Runs config (handle config request) s tr reply s')
    (hbegun : s.2.events.Begun) (hcompletes : Completes tr) (hsettled : Settled s.2.events sessionId) :
    Settled s'.2.events sessionId := by
  obtain hno | ⟨hun, hfinds⟩ := hcompletes
  · rw [events_of_noInserts h hno]
    exact hsettled
  obtain ⟨new, hlog, hchange⟩ := runs_change h hbegun sessionId
  cases hchange with
  | nothing =>
    rw [List.append_nil] at hlog
    exact hsettled.of_log hlog
  | purchase c _ _ _ hrows =>
    apply settled_of_states hlog
    rw [hrows.complete hun]
    exact Or.inl rfl
  | failover _ _ _ _ hread htr hfails =>
    subst htr
    have hfinds' := hfinds _ _ (List.mem_append_left _ hread)
    apply settled_of_states hlog
    rw [hfails.complete (undisturbed_append.mp hun).2 fun tier eligible hmem =>
      hfinds' tier eligible (List.mem_append_right _ hmem)]
    exact Or.inl rfl
  | ended _ _ hstates =>
    by_cases hne : new = []
    · rw [hne, List.append_nil] at hlog
      exact hsettled.of_log hlog
    · apply settled_of_states hlog
      have hmem := (List.mem_inits _ _).mpr hstates
      simp only [List.inits, List.map_cons, List.map_nil, List.mem_cons, List.not_mem_nil, or_false,
        List.map_eq_nil_iff, hne, false_or] at hmem
      rw [hmem]
      exact Or.inr rfl

theorem SerialRun.settled (hrun : SerialRun config now requests s)
    (hcompletes : ∀ handled ∈ requests, Completes handled.2.1) (sessionId : String) :
    Settled s.2.events sessionId := by
  refine hrun.invariant (P := fun requests s => (∀ handled ∈ requests, Completes handled.2.1) →
    Settled s.2.events sessionId) (fun _ => Or.inl rfl) ?_ ?_ hcompletes
  · intro requests s event _ ih hall
    exact (ih hall).of_log (by rw [(happen_unchanged event s).events])
  · intro requests s request tr reply s' hrun ih hruns hall
    have hall' := List.forall_mem_append.mp hall
    exact settled_step hruns hrun.begun (hall'.2 _ (List.mem_singleton_self _)) (ih hall'.1)

/-- **Which sessions are stuck.**  A recorded session is continued by some request exactly
    while it is active, and any other has the rows that it has for good.  Where no request
    is interrupted, every session is active until it is ended. -/
theorem continues_iff (hrun : SerialRun config now requests s) :
    (∀ sessionId, s.2.events.getSessionEvents sessionId ≠ [] →
      (Continues config s sessionId ↔ s.2.events.getCurrentState sessionId = some .active) ∧
      (s.2.events.getCurrentState sessionId ≠ some .active →
        ∀ requests' s', Serial (system config) s requests' s' →
          s'.2.events.getSessionEvents sessionId = s.2.events.getSessionEvents sessionId)) ∧
    ((∀ handled ∈ requests, Completes handled.2.1) →
      ∀ sessionId, s.2.events.getSessionEvents sessionId ≠ [] →
        s.2.events.getCurrentState sessionId ≠ some .expiredNormal → Continues config s sessionId) := by
  constructor
  · intro sessionId hrecorded
    refine ⟨continues_iff_active hrun hrecorded, ?_⟩
    intro hnot requests' s' hserial
    exact log_of_serial hrun hserial hrecorded hnot
  · intro hcompletes sessionId hrecorded hnot
    rcases hrun.settled hcompletes sessionId with hnone | hactive | hended
    · exact absurd hnone hrecorded
    · exact continues_of_active hactive
    · exact absurd hended hnot

end Run

/-! ### A run -/

namespace Sample

/-- Discovery names carol alone, who is the relay that failed. -/
def alone : Oracle := { oracle with eligible := some [carol] }

end Sample

/-- The failover of session 0 finds no other relay, and the session is stuck in
    `FAILOVER_SELECT`. -/
theorem stuck_alone : ∃ requests s, SerialRun Sample.config now requests s ∧
    requests.map Prod.fst = [confirm, .forceRelayFailure "0"] ∧
    requests.map (fun handled => handled.2.2.status) = [200, 503] ∧
    s.2.events.getSessionEvents "0" ≠ [] ∧
    s.2.events.getCurrentState "0" = some .failoverSelect ∧ ¬ Continues Sample.config s "0" := by
  have heval : opened.any (fun first => first.2.1.status = 200 &&
      ((system Sample.config).evaluate (handle Sample.config (.forceRelayFailure "0")) first.2.2
        (List.replicate 10 ([], alone))).any fun second => second.2.1.status = 503 &&
          second.2.2.2.events.getCurrentState "0" = some .failoverSelect) = true := by
    decide +kernel
  obtain ⟨⟨tr₁, reply₁, s₁⟩, hopened, hresult⟩ := (Option.any_eq_true _ _).mp heval
  obtain ⟨hstatus₁, hsecond⟩ := Bool.and_eq_true_iff.mp hresult
  obtain ⟨⟨tr₂, reply₂, s₂⟩, hmoved, hresult⟩ := (Option.any_eq_true _ _).mp hsecond
  obtain ⟨hstatus₂, hstate⟩ := Bool.and_eq_true_iff.mp hresult
  have hstate : s₂.2.events.getCurrentState "0" = some .failoverSelect := of_decide_eq_true hstate
  have hrun : SerialRun Sample.config now
      [(confirm, tr₁, reply₁), (.forceRelayFailure "0", tr₂, reply₂)] s₂ :=
    System.Serial.happen (S := system Sample.config) (e := Event.mine buy)
      (.request (evaluates_of_evaluate hopened) (.request (evaluates_of_evaluate hmoved) (.nil s₂)))
  have hrecorded := ne_nil_of_getCurrentState hstate
  refine ⟨_, s₂, hrun, rfl, ?_, hrecorded, hstate, ?_⟩
  · have hstatuses := And.intro (of_decide_eq_true hstatus₁) (of_decide_eq_true hstatus₂)
    simpa using hstatuses
  · rw [continues_iff_active hrun hrecorded, hstate]
    simp

/-- Session 0 is bought without a failure, and is not stuck. -/
theorem continues_opened : ∃ requests s, SerialRun Sample.config now requests s ∧
    s.2.events.getCurrentState "0" = some .active ∧ Continues Sample.config s "0" := by
  obtain ⟨tr, reply, s, -, hrun, -, hactive, hun, -⟩ := Sample.exists_opened
  obtain ⟨hstate, -, -, -⟩ := Sample.of_activeOn hactive
  have hrecorded := ne_nil_of_getCurrentState hstate
  exact ⟨_, s, hrun, hstate, ((continues_iff hrun).1 "0" hrecorded).1.mpr hstate⟩

end DVoD.Orchestrator
