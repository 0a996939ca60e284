import DVoD.Relay.Process

/-!
# Tunnels and the expiry of their tokens

A token is checked when its CONNECT arrives, and never again.  `in_term_iff` says which
runs of a relay forward nothing on a tunnel whose token has expired.  What the peers of such
a tunnel are still sent had been written to their sockets before: `sent_after_term`.
-/

namespace DVoD.Relay

open DVoD.Machine DVoD.Net DVoD.Session

/-- The token of the request has expired. -/
def ConnectRequest.Expired (req : ConnectRequest) (now : ℕ) : Prop :=
  ∃ token payload, req.token = some token ∧ tokenPayload token = some payload ∧
    DVoD.Session.Expired payload now

/-- The token of a request that is dialled has not expired. -/
theorem not_expired_of_dials {server : TunnelServer} {sign : Sign} {now : ℕ} {req : ConnectRequest}
    (h : server.Dials sign now req) : ¬ req.Expired now := by
  obtain ⟨port, host, hdial⟩ := h
  rcases connect_cases server sign now req with
    ⟨effects, hok, _, _, rfl, -⟩ | ⟨token, payload, _, _, htoken, hverify, -⟩ | ⟨_, err, -, herr, -⟩
  · cases hdial.symm.trans hok
  · rintro ⟨token', payload', htoken', hpayload', hexpired⟩
    obtain rfl := Option.some.inj (htoken.symm.trans htoken')
    by_cases hsigned : ∃ body, Signed sign server.secret token body
    swap
    · rw [verifySessionToken_of_not_signed (not_exists.mp hsigned)] at hverify
      cases hverify
    obtain ⟨body, hbody⟩ := hsigned
    rw [verifySessionToken_of_signed hbody] at hverify
    rw [hbody.tokenPayload_eq] at hpayload'
    rcases readPayload_cases body now with ⟨err, herr, -⟩ | ⟨payload₁, hparse, -, -, ⟨hnone, -⟩ | ⟨-, hnot⟩⟩
    · cases hverify.symm.trans herr
    · cases hverify.symm.trans hnone
    · obtain rfl := Option.some.inj (hparse.symm.trans hpayload')
      exact hnot hexpired
  · cases hdial.symm.trans herr

namespace Tunnel

/-! ### What a move forwards -/

section Forwards

variable {t t' : Tunnel} {now : ℕ} {move : TunnelMove}

/-- The other socket can be written to. -/
def Passes (t : Tunnel) (side : Side) : Bool :=
  !(t.socket side.other).destroyed && !(t.socket side.other).finishing

/-- The bytes that a move writes to a peer, of the other one or of the request. -/
def forwards (t : Tunnel) : ℕ × TunnelMove → List Forwarded
  | (now, .connected) => [⟨now, .target, t.head⟩]
  | (now, .data side n) =>
      if t.Passes side then [⟨now, side.other, (t.socket side).unread.take n⟩] else []
  | _ => []

/-- The two tunnels have the same request, and have forwarded the same. -/
def SameLog (t t' : Tunnel) : Prop := t'.request = t.request ∧ t'.forwarded = t.forwarded

theorem SameLog.trans {t'' : Tunnel} (h : SameLog t t') (h' : SameLog t' t'') : SameLog t t'' :=
  ⟨h'.1.trans h.1, h'.2.trans h.2⟩

theorem sameLog_set (t : Tunnel) (side : Side) (s : Socket UInt8) : SameLog t (t.set side s) := by
  cases side <;> exact ⟨rfl, rfl⟩

theorem sameLog_emitError (t : Tunnel) (side : Side) : SameLog t (t.emitError side) := by
  unfold Tunnel.emitError
  split
  · exact ⟨rfl, rfl⟩
  · exact sameLog_set ..

theorem sameLog_emitClose (t : Tunnel) (side : Side) : SameLog t (t.emitClose side) := by
  unfold Tunnel.emitClose
  split <;> exact ⟨rfl, rfl⟩

theorem sameLog_onEnd (t : Tunnel) (side : Side) : SameLog t (t.onEnd side) := by
  unfold Tunnel.onEnd
  dsimp only
  split
  · split
    · exact sameLog_set ..
    · exact (sameLog_set ..).trans (sameLog_set ..)
  · exact ⟨rfl, rfl⟩

theorem forwarded_forward (t : Tunnel) (side : Side) (s : Socket UInt8) (now : ℕ) (chunk : Bytes) :
    ((t.set side s).forward now side chunk).request = t.request ∧
      ((t.set side s).forward now side chunk).forwarded = t.forwarded ++
        if t.Passes side then [⟨now, side.other, chunk⟩] else [] := by
  have hset := sameLog_set t side s
  rcases hdestroyed : (t.socket side.other).destroyed with _ | _
  · rcases hfinishing : (t.socket side.other).finishing with _ | _
    · obtain ⟨paused, heq⟩ := forward_of_open s now chunk hdestroyed hfinishing
      have hlog := (sameLog_set t side { s with paused := paused }).trans
        (sameLog_set _ side.other ((t.socket side.other).write chunk))
      have hpasses : t.Passes side = true := by
        rw [Passes, hdestroyed, hfinishing]
        rfl
      rw [heq, hpasses]
      exact ⟨hlog.1, congrArg (· ++ _) hlog.2⟩
    · have hlog := (hset.trans (sameLog_set _ side.other (t.socket side.other).destroy)).trans
        (sameLog_emitError _ side.other)
      have hpasses : t.Passes side = false := by
        rw [Passes, hdestroyed, hfinishing]
        rfl
      rw [forward_of_finishing s now chunk hdestroyed hfinishing, hpasses]
      exact ⟨hlog.1, hlog.2.trans (List.append_nil _).symm⟩
  · have hpasses : t.Passes side = false := by
      rw [Passes, hdestroyed]
      rfl
    have heq : (t.set side s).forward now side chunk = t.set side s := by
      unfold Tunnel.forward
      rw [socket_set_other]
      exact if_pos hdestroyed
    rw [heq, hpasses]
    exact ⟨hset.1, hset.2.trans (List.append_nil _).symm⟩

/-- **What a move forwards.** -/
theorem forwarded_step (hstep : t.step (now, move) = some t') :
    t'.request = t.request ∧ t'.forwarded = t.forwarded ++ t.forwards (now, move) := by
  have hkeep (h : SameLog t t') : t'.request = t.request ∧ t'.forwarded = t.forwarded ++ [] :=
    ⟨h.1, h.2.trans (List.append_nil _).symm⟩
  cases moves_of_step hstep with
  | connected => exact ⟨rfl, rfl⟩
  | arrives | peerEnds | flushed => exact hkeep (sameLog_set ..)
  | data _ hdata =>
    rw [forwards, ← Socket.chunk_of_data hdata]
    exact forwarded_forward ..
  | ends => exact hkeep ((sameLog_set ..).trans (sameLog_onEnd ..))
  | drained => exact hkeep ((sameLog_set ..).trans (sameLog_set ..))
  | error => exact hkeep ((sameLog_set ..).trans (sameLog_emitError ..))
  | close => exact hkeep ((sameLog_set ..).trans (sameLog_emitClose ..))

/-- No byte was forwarded after the token had expired. -/
def Timely (t : Tunnel) : Prop := ∀ f ∈ t.forwarded, f.bytes ≠ [] → ¬ t.request.Expired f.time

/-- The move reads no bytes that are passed on, and does not open a tunnel with first bytes
    for the target, unless the token is still good. -/
def InTerm (t : Tunnel) : ℕ × TunnelMove → Prop
  | (now, .connected) => t.head ≠ [] → ¬ t.request.Expired now
  | (now, .data side _) => t.Passes side = true → ¬ t.request.Expired now
  | _ => True

theorem forwards_iff (hstep : t.step (now, move) = some t') :
    (∀ f ∈ t.forwards (now, move), f.bytes ≠ [] → ¬ t.request.Expired f.time) ↔ t.InTerm (now, move) := by
  cases moves_of_step hstep with
  | connected => simp [forwards, InTerm]
  | @data side n chunk s _ hdata =>
    have hchunk := (Socket.data_eq_some hdata).2.2.1
    rw [Socket.chunk_of_data hdata] at hchunk
    rcases hpasses : t.Passes side with _ | _
    · simp [forwards, InTerm, hpasses]
    · simp only [forwards, InTerm, hpasses, if_true, List.forall_mem_singleton, forall_true_left]
      exact forall_prop_of_true hchunk
  | _ => exact iff_of_true nofun trivial

theorem timely_step (hstep : t.step (now, move) = some t') :
    t'.Timely ↔ t.Timely ∧ t.InTerm (now, move) := by
  obtain ⟨hrequest, hforwarded⟩ := forwarded_step hstep
  rw [Timely, hrequest, hforwarded, List.forall_mem_append, forwards_iff hstep]
  exact Iff.rfl

/-! ### What is flushed -/

/-- What has been written to the peer on the side and not been discarded, sent or not. -/
def written (t : Tunnel) (side : Side) : Bytes := (t.socket side).sent ++ (t.socket side).pending

/-- A connected tunnel has stayed one, for the same request, and nothing was written. -/
structure Silent (t t' : Tunnel) : Prop where
  request_eq : t'.request = t.request
  connected : t.connected = true → t'.connected = true
  written_prefix : ∀ side, t'.written side <+: t.written side

theorem Silent.refl (t : Tunnel) : Silent t t := ⟨rfl, id, fun _ => List.prefix_rfl⟩

theorem Silent.trans {t'' : Tunnel} (h : Silent t t') (h' : Silent t' t'') : Silent t t'' where
  request_eq := h'.request_eq.trans h.request_eq
  connected := h'.connected ∘ h.connected
  written_prefix side := (h'.written_prefix side).trans (h.written_prefix side)

theorem Silent.set {side : Side} {s : Socket UInt8} (h : s.sent ++ s.pending <+: t.written side) :
    Silent t (t.set side s) := by
  refine ⟨(sameLog_set t side s).1, fun hconnected => (connected_set t side s).trans hconnected, ?_⟩
  intro side'
  rcases eq_or_ne side' side with rfl | hne
  · rw [written, socket_set_self]
    exact h
  · obtain rfl := Side.eq_other_of_ne hne
    rw [written, socket_set_other]
    exact List.prefix_rfl

theorem Silent.destroy (t : Tunnel) (side : Side) : Silent t (t.set side (t.socket side).destroy) := by
  apply Silent.set
  exact (List.append_nil _).symm ▸ List.prefix_append ..

theorem Silent.closeBoth (t : Tunnel) : Silent t t.closeBoth := by
  refine ⟨rfl, id, fun side => ?_⟩
  rw [written, socket_closeBoth]
  exact (List.append_nil _).symm ▸ List.prefix_append ..

theorem Silent.emitError (t : Tunnel) (side : Side) : Silent t (t.emitError side) := by
  unfold Tunnel.emitError
  split
  · exact .closeBoth t
  · exact .set List.prefix_rfl

theorem Silent.emitClose (t : Tunnel) (side : Side) : Silent t (t.emitClose side) := by
  unfold Tunnel.emitClose
  split
  · exact .closeBoth t
  · exact .refl t

theorem Silent.onEnd (t : Tunnel) (side : Side) : Silent t (t.onEnd side) := by
  unfold Tunnel.onEnd
  dsimp only
  split
  · split
    · exact .set List.prefix_rfl
    · have hfinish : Silent t (t.set side.other (t.socket side.other).finish) := .set List.prefix_rfl
      exact hfinish.trans (.set List.prefix_rfl)
  · exact .refl t

/-- A chunk that is not passed on. -/
theorem Silent.forward (h : t.Passes side = false) (chunk : Bytes) :
    Silent t (t.forward now side chunk) := by
  unfold Tunnel.forward
  dsimp only
  split
  · exact .refl t
  next hopen =>
  split
  · exact (Silent.destroy t side.other).trans (.emitError _ _)
  next hfinishing =>
  rw [Passes, Bool.eq_false_iff.mpr hopen, Bool.eq_false_iff.mpr hfinishing] at h
  cases h

/-- A move of a connected tunnel after the term, where nothing is passed on. -/
theorem silent_step (hstep : t.step (now, move) = some t') (hconnected : t.connected = true)
    (hterm : t.InTerm (now, move)) (hexpired : t.request.Expired now) : Silent t t' := by
  cases moves_of_step hstep with
  | connected hnot => cases hnot.symm.trans hconnected
  | arrives harrives =>
    obtain ⟨-, -, rfl⟩ := Socket.arrives_eq_some harrives
    exact .set List.prefix_rfl
  | peerEnds hends =>
    obtain ⟨-, -, rfl⟩ := Socket.peerEnds_eq_some hends
    exact .set List.prefix_rfl
  | @data side n chunk s _ hdata =>
    have hpasses : t.Passes side = false := Bool.eq_false_iff.mpr fun hpasses => hterm hpasses hexpired
    have hset : Silent t (t.set side s) := by
      rw [(Socket.data_eq_some hdata).2.2.2.2]
      exact .set List.prefix_rfl
    refine hset.trans (.forward ?_ chunk)
    rw [Passes, socket_set_other]
    exact hpasses
  | @ends side s _ hends =>
    have hset : Silent t (t.set side s) := by
      obtain ⟨-, -, -, rfl⟩ := Socket.ends_eq_some hends
      exact .set List.prefix_rfl
    exact hset.trans (.onEnd _ side)
  | flushed hflushed =>
    apply Silent.set
    rw [(Socket.flushed_eq_some hflushed).2.1]
    exact List.prefix_rfl
  | @drained side s hdrained =>
    have hset : Silent t (t.set side s) := by
      obtain ⟨-, rfl⟩ := Socket.drained_eq_some hdrained
      exact .set List.prefix_rfl
    refine hset.trans (.set ?_)
    rw [written, socket_set_other]
    exact List.prefix_rfl
  | error hfails =>
    obtain ⟨-, rfl⟩ := Socket.fails_eq_some hfails
    exact (Silent.destroy t _).trans (.emitError _ _)
  | @close side s hcloses =>
    have hset : Silent t (t.set side s) := by
      obtain ⟨-, rfl⟩ := Socket.closes_eq_some hcloses
      exact .set (List.append_nil _ ▸ List.prefix_append ..)
    exact hset.trans (.emitClose _ side)

end Forwards

end Tunnel

/-! ### Runs of the process -/

def Connection.Timely : Connection → Prop
  | .rejected .. => True
  | .tunnel t => t.Timely

def Connection.InTerm (c : Connection) (move : ℕ × TunnelMove) : Prop :=
  match c with
  | .rejected .. => True
  | .tunnel t => t.InTerm move

theorem Connection.timely_step {c c' : Connection} {now : ℕ} {move : TunnelMove}
    (hstep : c.step (now, move) = some c') : c'.Timely ↔ c.Timely ∧ c.InTerm (now, move) := by
  cases c with
  | tunnel t =>
    obtain ⟨t', htunnel, rfl⟩ := Option.map_eq_some_iff.mp hstep
    exact Tunnel.timely_step htunnel
  | rejected client events =>
    obtain ⟨client', rfl⟩ := rejected_step hstep
    exact iff_of_true trivial ⟨trivial, trivial⟩

/-- One element of a list changes. -/
theorem forall_mem_set_iff {α : Type} {l : List α} {i : ℕ} {a a' : α} {P : α → Prop} {q : Prop}
    (ha : l[i]? = some a) (h : P a' ↔ P a ∧ q) : (∀ b ∈ l.set i a', P b) ↔ (∀ b ∈ l, P b) ∧ q := by
  induction l generalizing i with
  | nil => cases ha
  | cons b l ih =>
    cases i with
    | zero =>
      obtain rfl := Option.some.inj ha
      rw [List.set_cons_zero, List.forall_mem_cons, List.forall_mem_cons, h, and_right_comm]
    | succ i => rw [List.set_cons_succ, List.forall_mem_cons, List.forall_mem_cons, ih ha, and_assoc]

namespace Process

/-- No tunnel has forwarded a byte after its token had expired. -/
def Timely (p : Process) : Prop := ∀ c ∈ p.connections, c.Timely

def InTerm (p : Process) : ℕ × ProcessMove → Prop
  | (_, .connect ..) => True
  | (now, .socket i move) => ∀ c, p.connections[i]? = some c → c.InTerm (now, move)

section Runs

variable {server : TunnelServer} {sign : Sign} {highWaterMark now : ℕ} {p p' : Process}
  {c : Connection}

theorem timely_onConnect {req : ConnectRequest} {head : Bytes}
    (h : server.onConnect sign highWaterMark now req head = .ok c) : c.Timely := by
  rcases onConnect_cases h with ⟨_, _, rfl, -⟩ | ⟨port, host, -, rfl⟩
  · trivial
  · intro f hf
    exact nomatch hf

theorem timely_step {move : ℕ × ProcessMove} (hstep : p.step server sign highWaterMark move = some p') :
    p'.Timely ↔ p.Timely ∧ p.InTerm move := by
  obtain ⟨now, move⟩ := move
  cases move with
  | connect req head =>
    obtain ⟨-, hstep⟩ := Option.ite_none_left_eq_some.mp hstep
    refine Iff.trans ?_ (and_iff_left trivial).symm
    rcases hconnect : server.onConnect sign highWaterMark now req head with err | c
    · rw [hconnect] at hstep
      obtain rfl := Option.some.inj hstep
      rfl
    · rw [hconnect] at hstep
      obtain rfl := Option.some.inj hstep
      unfold Timely
      rw [List.forall_mem_append, List.forall_mem_singleton, and_iff_left (timely_onConnect hconnect)]
  | socket i move =>
    obtain ⟨-, hstep⟩ := Option.ite_none_left_eq_some.mp hstep
    obtain ⟨c, hc, hstep⟩ := Option.bind_eq_some_iff.mp hstep
    obtain ⟨c', hmove, rfl⟩ := Option.map_eq_some_iff.mp hstep
    have hinTerm : p.InTerm (now, .socket i move) ↔ c.InTerm (now, move) := by
      constructor
      · intro h
        exact h c hc
      · intro h c₁ hc₁
        obtain rfl := Option.some.inj (hc.symm.trans hc₁)
        exact h
    rw [hinTerm]
    exact forall_mem_set_iff hc (Connection.timely_step hmove)

/-- **When sessions are time-boxed at a relay.**  In every run, no tunnel has forwarded a
    byte after its token had expired, exactly where no move read bytes that were passed on,
    or opened a tunnel with first bytes for its target, after that. -/
theorem in_term_iff {moves : List (ℕ × ProcessMove)}
    (hrun : run (step server sign highWaterMark) start moves = some p) :
    p.Timely ↔ AllMoves (step server sign highWaterMark) InTerm start moves := by
  have hstart : start.Timely := fun _ hc => absurd hc List.not_mem_nil
  have hgood : p.Timely ↔ start.Timely ∧ AllMoves (step server sign highWaterMark) InTerm start moves :=
    run_good_iff (I := fun _ => True) (fun _ _ => trivial) (fun _ hstep => timely_step hstep) hrun
      trivial
  rwa [and_iff_right hstart] at hgood

/-- The tunnel is one of the connections, and nothing has been written on it since. -/
def Since (i : ℕ) (t : Tunnel) (p : Process) : Prop :=
  ∃ t', p.connections[i]? = some (.tunnel t') ∧ t.Silent t'

theorem since_step {i : ℕ} {t : Tunnel} {move : ℕ × ProcessMove} (h : p.Since i t)
    (hconnected : t.connected = true) (hterm : p.InTerm move) (hexpired : t.request.Expired move.1)
    (hstep : p.step server sign highWaterMark move = some p') : p'.Since i t := by
  obtain ⟨t₁, hi, hsilent⟩ := h
  obtain ⟨now, move⟩ := move
  cases move with
  | connect req head =>
    obtain ⟨-, hstep⟩ := Option.ite_none_left_eq_some.mp hstep
    rcases hconnect : server.onConnect sign highWaterMark now req head with err | c
    · rw [hconnect] at hstep
      obtain rfl := Option.some.inj hstep
      exact ⟨t₁, hi, hsilent⟩
    · rw [hconnect] at hstep
      obtain rfl := Option.some.inj hstep
      exact ⟨t₁, List.getElem?_append_left (List.getElem?_eq_some_iff.mp hi).1 ▸ hi, hsilent⟩
  | socket j move =>
    obtain ⟨-, hstep⟩ := Option.ite_none_left_eq_some.mp hstep
    obtain ⟨c, hc, hstep⟩ := Option.bind_eq_some_iff.mp hstep
    obtain ⟨c', hmove, rfl⟩ := Option.map_eq_some_iff.mp hstep
    by_cases hij : j = i
    · subst hij
      obtain rfl := Option.some.inj (hi.symm.trans hc)
      obtain ⟨t₂, htunnel, rfl⟩ := Option.map_eq_some_iff.mp hmove
      refine ⟨t₂, List.getElem?_set_self (List.getElem?_eq_some_iff.mp hi).1, hsilent.trans ?_⟩
      refine Tunnel.silent_step htunnel (hsilent.connected hconnected) (hterm _ hi) ?_
      rw [hsilent.request_eq]
      exact hexpired
    · exact ⟨t₁, (List.getElem?_set_ne hij).trans hi, hsilent⟩

/-- **What the peers are sent after the term.**  Where no byte is forwarded after the token
    of a connected tunnel has expired, all that a peer is sent from then on is a beginning of
    what was in the buffer of its socket when the token expired. -/
theorem sent_after_term {before after : List (ℕ × ProcessMove)} {i : ℕ} {t : Tunnel}
    (hbefore : run (step server sign highWaterMark) start before = some p)
    (hafter : run (step server sign highWaterMark) p after = some p')
    (hi : p.connections[i]? = some (.tunnel t)) (hconnected : t.connected = true)
    (hexpired : ∀ move ∈ after, t.request.Expired move.1) (htimely : p'.Timely) :
    ∃ t', p'.connections[i]? = some (.tunnel t') ∧
      ∀ side, (t'.socket side).sent <+: (t.socket side).sent ++ (t.socket side).pending := by
  have hterm := (in_term_iff (run_append.mpr ⟨p, hbefore, hafter⟩)).mp htimely
  have hgood : AllMoves (step server sign highWaterMark)
      (fun p move => p.InTerm move ∧ t.request.Expired move.1) p after :=
    (allMoves_append_right hbefore hterm).and (allMoves_of_mem fun move hmove _ => hexpired move hmove)
  obtain ⟨t', ht', hsilent⟩ := run_invariant
    (fun h hm hstep => since_step h hconnected hm.1 hm.2 hstep) hafter hgood ⟨t, hi, .refl t⟩
  exact ⟨t', ht', fun side => (List.prefix_append ..).trans (hsilent.written_prefix side)⟩

end Runs

end Process

/-! ### A tunnel that outlives its token -/

/-- The target answers when the hour of the token is over. -/
def outliving (time : ℕ) : List (ℕ × ProcessMove) :=
  [(1000000001000, .connect sampleRequest []), (1000000001000, .socket 0 .connected),
    (time, .socket 0 (.arrives .target [120])), (time, .socket 0 (.data .target 1))]

theorem expired_sample (now : ℕ) : sampleRequest.Expired now ↔ 1000003600 < (now / 1000 : ℕ) := by
  have hpayload : tokenPayload sampleToken = some samplePayload.toJson := by
    rw [← issue_sample]
    exact tokenPayload_issue sampleSign_no_dot samplePayload _
  have hexpires : DVoD.Session.Expired samplePayload.toJson now ↔ 1000003600 < (now / 1000 : ℕ) :=
    (expired_toJson samplePayload now).trans Nat.cast_lt
  rw [← hexpires]
  constructor
  · rintro ⟨token, payload, htoken, hpayload', hexpired⟩
    obtain rfl := Option.some.inj htoken
    obtain rfl := Option.some.inj (hpayload.symm.trans hpayload')
    exact hexpired
  · intro hexpired
    exact ⟨sampleToken, _, rfl, hpayload, hexpired⟩

/-- The tunnel of the run. -/
def outlived (time : ℕ) : Option Tunnel :=
  (run (Process.step sampleServer sampleSign 16384) .start (outliving time)).bind fun p =>
    match p.connections with
    | [.tunnel t] => some t
    | _ => none

theorem exists_outlived {time : ℕ} {f : Tunnel → Bool} (h : (outlived time).any f = true) :
    ∃ p t, run (Process.step sampleServer sampleSign 16384) .start (outliving time) = some p ∧
      p.connections = [.tunnel t] ∧ f t = true := by
  obtain ⟨t, ht, hf⟩ := (Option.any_eq_true _ _).mp h
  obtain ⟨p, hrun, hp⟩ := Option.bind_eq_some_iff.mp ht
  split at hp
  · next hconnections =>
    obtain rfl := Option.some.inj hp
    exact ⟨p, _, hrun, hconnections, hf⟩
  · cases hp

theorem in_term_iff_outliving :
    AllMoves (Process.step sampleServer sampleSign 16384) Process.InTerm .start (outliving 1000003599000) := by
  have heval : (outlived 1000003599000).any (fun t => decide (t.request = sampleRequest) &&
      t.forwarded.all fun f => f.time / 1000 ≤ 1000003600) = true := by
    decide +kernel
  obtain ⟨p, t, hrun, hconnections, ht⟩ := exists_outlived heval
  rw [Bool.and_eq_true, decide_eq_true_eq, List.all_eq_true] at ht
  apply (Process.in_term_iff hrun).mp
  intro c hc
  rw [hconnections] at hc
  obtain rfl := List.mem_singleton.mp hc
  intro f hf _
  rw [ht.1, expired_sample, not_lt]
  exact of_decide_eq_true (ht.2 f hf)

/-- A byte of the target reaches the client a second after the token has expired. -/
theorem outlived_token : ∃ p,
    run (Process.step sampleServer sampleSign 16384) .start (outliving 1000003601000) = some p ∧
      ¬ p.Timely := by
  have heval : (outlived 1000003601000).any (fun t => decide (t.request = sampleRequest) &&
      t.forwarded.any fun f => f.time = 1000003601000 && f.bytes ≠ []) = true := by
    decide +kernel
  obtain ⟨p, t, hrun, hconnections, ht⟩ := exists_outlived heval
  rw [Bool.and_eq_true, decide_eq_true_eq, List.any_eq_true] at ht
  obtain ⟨hrequest, f, hf, hlate⟩ := ht
  rw [Bool.and_eq_true, decide_eq_true_eq, decide_eq_true_eq] at hlate
  refine ⟨p, hrun, ?_⟩
  intro htimely
  have hmem : Connection.tunnel t ∈ p.connections := by
    rw [hconnections]
    exact List.mem_singleton_self _
  have hnot := htimely _ hmem f hf hlate.2
  rw [hrequest, expired_sample, hlate.1] at hnot
  exact hnot (by decide)

end DVoD.Relay
