import DVoD.MacClient.BytePipe
import DVoD.Route.TunnelPath

/-!
# What arrives at the other end

Between the client of the local proxy and the target that the relay has dialled, bytes are
passed on in order and once: in every run, and wherever it breaks off, each end has been
sent a beginning of what the other has sent (`passed_on_in_order`).  While the path is up,
what has not arrived is in one of its buffers (`nothing_is_lost`).
-/

namespace DVoD.Route

open DVoD.Machine DVoD.Net DVoD.Text
open DVoD.MacClient (doubleCRLF)
open DVoD.MacClient.Bridge (behindHeader clientTarget requestOf)
open DVoD.Relay (Bytes)

/-! ### The client's end -/

section Client

variable {platform : MacClient.Platform} {server : MacClient.LocalProxyServer} {b : MacClient.Bridge}

/-- The relay's header has come and is a 200, with these bytes behind it. -/
def Answered (platform : MacClient.Platform) (b : MacClient.Bridge) (behind : Bytes) : Prop :=
  ∃ header, cutAt doubleCRLF b.remote.received = some (header, behind) ∧
    MacClient.accepts platform.characterData (Utf8.decodeStrict header) = true

/-- The client is told of a tunnel only after the relay's 200, and then is sent what stood
    behind it. -/
theorem client_sent_cases (hinv : b.Inv platform server) (hreplied : b.Replied platform) :
    b.client.sent = [] ∨ b.client.sent = MacClient.badGateway ∨
    ∃ passed behind, b.client.sent = MacClient.established ++ passed ∧ passed <+: behind ∧
      Answered platform b behind := by
  unfold MacClient.Bridge.Inv at hinv
  unfold MacClient.Bridge.Replied at hreplied
  have hsent {sends : List Bytes} (hsends : b.client.sends = sends) : b.client.sent = sends.flatten :=
    congrArg List.flatten hsends
  cases hphase : b.phase with
  | handleClient buffer =>
    rw [hphase] at hreplied
    exact Or.inl (hsent hreplied)
  | bridgeToRemote leftover buffer =>
    rw [hphase] at hreplied
    exact Or.inl (hsent hreplied)
  | accepted leftover remoteLeftover =>
    rw [hphase] at hinv hreplied
    obtain ⟨-, -, -, hsends, -, -⟩ := hinv
    obtain ⟨header, behind, hcut, haccepts⟩ := hreplied
    exact Or.inr (Or.inr ⟨[], behind, hsent hsends, List.nil_prefix, header, hcut, haccepts⟩)
  | pumping =>
    rw [hphase] at hinv hreplied
    obtain ⟨⟨-, -, down, -, ⟨header, hcut⟩, -, -, hsent'⟩, -⟩ := hinv
    obtain ⟨header', behind, hcut', haccepts⟩ := hreplied
    obtain ⟨rfl, rfl⟩ := Prod.mk.inj (Option.some.inj (hcut'.symm.trans hcut))
    exact Or.inr (Or.inr ⟨behind, behind, hsent', List.prefix_rfl, header', hcut', haccepts⟩)
  | closed =>
    rw [hphase] at hinv hreplied
    obtain ⟨-, -, down, -, ⟨header, hcut⟩, -, -, hsent'⟩ := hinv
    obtain ⟨header', behind, hcut', haccepts⟩ := hreplied
    obtain ⟨rfl, rfl⟩ := Prod.mk.inj (Option.some.inj (hcut'.symm.trans hcut))
    exact Or.inr (Or.inr ⟨behind, behind, hsent', List.prefix_rfl, header', hcut', haccepts⟩)
  | rejecting =>
    rw [hphase] at hreplied
    rcases hreplied with hnone | hbad
    · exact Or.inl (hsent hnone)
    · exact Or.inr (Or.inl (hsent hbad))
  | rejected =>
    rw [hphase] at hreplied
    rcases hreplied with hnone | hbad
    · exact Or.inl (hsent hnone)
    · exact Or.inr (Or.inl (hsent hbad))

theorem answered_of_accepted (hreplied : b.Replied platform) (h : b.Accepted) :
    ∃ behind, Answered platform b behind := by
  unfold MacClient.Bridge.Replied at hreplied
  unfold MacClient.Bridge.Accepted at h
  cases hphase : b.phase with
  | accepted leftover remoteLeftover =>
    rw [hphase] at hreplied
    obtain ⟨header, behind, hanswered⟩ := hreplied
    exact ⟨behind, header, hanswered⟩
  | pumping =>
    rw [hphase] at hreplied
    obtain ⟨header, behind, hanswered⟩ := hreplied
    exact ⟨behind, header, hanswered⟩
  | closed =>
    rw [hphase] at hreplied
    obtain ⟨header, behind, hanswered⟩ := hreplied
    exact ⟨behind, header, hanswered⟩
  | _ =>
    rw [hphase] at h
    exact h.elim

theorem prefix_behindHeader_received {target : List (List Char)} {c : Channel UInt8}
    (h : clientTarget platform c.received = some target) :
    behindHeader c.received <+: behindHeader c.stream := by
  obtain ⟨⟨header, behind⟩, hcut, -⟩ := Option.bind_eq_some_iff.mp h
  rw [MacClient.Bridge.behindHeader_stream hcut, MacClient.Bridge.behindHeader_of_cut hcut]
  exact List.prefix_append ..

end Client

/-! ### The relay's end -/

/-- The relay's answer to a CONNECT is a header and nothing behind it. -/
theorem cutAt_established : cutAt doubleCRLF Relay.established =
    some (Utf8.encode "HTTP/1.1 200 Connection Established".toList, []) := by
  decide +kernel

namespace Path

section Inv

variable {e : Ends} {s : Path} {target : List (List Char)} {behind : Bytes} {now : ℕ} {t : Relay.Tunnel}

theorem request_eq {request : Bytes} (htarget : clientTarget e.platform s.bridge.client.received = some target)
    (hrequest : requestOf e.platform e.proxy s.bridge.client.received = some request) :
    request = connectBytes target.flatten e.proxy.token.toList := by
  rw [requestOf, htarget, Option.bind_some, Option.ite_none_right_eq_some] at hrequest
  exact (Option.some.inj hrequest.2).symm

/-- The relay is sent the app's request for the client's target, and then a part of what
    the client has sent behind its own header. -/
theorem Inv.request (h : s.Inv e) (htarget : clientTarget e.platform s.bridge.client.received = some target)
    (hrelay : s.relay ≠ .reading []) :
    s.bridge.remote.sends.head? = some (connectBytes target.flatten e.proxy.token.toList) ∧
    ∃ rest, s.bridge.remote.sent = connectBytes target.flatten e.proxy.token.toList ++ rest ∧
      rest <+: behindHeader s.bridge.client.received := by
  rcases h.bridge.sends with ⟨hsends, -⟩ | ⟨request, rest, hsends, hrequest, hrest⟩
  · exact absurd hsends (h.sends_ne_nil hrelay)
  · rw [Channel.sent, hsends, request_eq htarget hrequest]
    exact ⟨rfl, rest.flatten, rfl, hrest⟩

/-- What the app has received of a tunnel behind its header is what the target has sent. -/
theorem Inv.answered (h : s.Inv e) (hrelay : s.relay = .handled now (.tunnel t)) (hpiped : t.Piped)
    (hanswered : Answered e.platform s.bridge behind) :
    t.connected = true ∧ ∃ more, s.bridge.remote.received ++ more = Relay.established ++ t.target.arrived ∧
      behind ++ more = t.target.arrived := by
  obtain ⟨header, hcut, -⟩ := hanswered
  have hdown := h.down
  rw [hrelay] at hdown
  have hsent : s.bridge.remote.received <+: t.client.sent := (List.prefix_append ..).trans hdown
  have hne : t.client.sent ≠ [] := by
    intro hnil
    rw [hnil, List.prefix_nil] at hsent
    rw [hsent] at hcut
    cases hcut
  obtain ⟨more, hmore⟩ := hsent.trans hpiped.sent_in_order.1
  have hcut' := cutAt_append hcut more
  rw [hmore, cutAt_append cutAt_established, List.nil_append] at hcut'
  exact ⟨hpiped.connected_of_sent hne, more, hmore, (Prod.mk.inj (Option.some.inj hcut')).2.symm⟩

end Inv

end Path

/-- **The path passes bytes on in order and once.**  In every run, wherever it breaks off:
    the target has been sent a beginning of what the client has sent behind its header, and
    nothing of the header or the token; the client has been sent nothing, or a 502, or the
    200 and a beginning of what the target has sent. -/
theorem passed_on_in_order {e : Ends} {s : Path} {moves : List PathMove} {target : List (List Char)}
    {now : ℕ} {t : Relay.Tunnel} (hrun : run (Path.step e) .start moves = some s)
    (htarget : clientTarget e.platform s.bridge.client.received = some target)
    (hreadable : Readable e target.flatten) (hrelay : s.relay = .handled now (.tunnel t)) :
    t.target.sent <+: behindHeader s.bridge.client.stream ∧
    (s.bridge.client.sent = [] ∨ s.bridge.client.sent = MacClient.badGateway ∨
      ∃ passed, s.bridge.client.sent = MacClient.established ++ passed ∧ passed <+: t.target.arrived) := by
  have hinv := Path.inv_of_run hrun
  have hne : s.relay ≠ .reading [] := by
    rw [hrelay]
    intro heq
    cases heq
  obtain ⟨hhead, rest, hsent, hrest⟩ := hinv.request htarget hne
  have hfollows := hinv.follows _ hreadable hhead
  rw [hrelay] at hfollows
  obtain ⟨hpiped, head, port, host, -, hdialled, hstream⟩ := hfollows
  constructor
  · -- what comes to the handler stood behind the request
    have hhead' : t.head = head := congrArg (fun dialled => dialled.2.1) hdialled
    have hbehind : t.head ++ t.client.arrived <+: rest := by
      have htake : s.bridge.remote.sent.take s.arrived <+: s.bridge.remote.sent := List.take_prefix ..
      rw [← hstream, hsent, ← hhead'] at htake
      exact (List.prefix_append_right_inj _).mp htake
    exact (hpiped.sent_in_order.2.trans hbehind).trans (hrest.trans (prefix_behindHeader_received htarget))
  · rcases client_sent_cases hinv.bridge hinv.replied with hnone | hbad | ⟨passed, behind, heq, hpassed, hanswered⟩
    · exact Or.inl hnone
    · exact Or.inr (Or.inl hbad)
    · obtain ⟨-, more, -, hmore⟩ := hinv.answered hrelay hpiped hanswered
      refine Or.inr (Or.inr ⟨passed, heq, hpassed.trans ?_⟩)
      rw [← hmore]
      exact List.prefix_append ..

/-- **While the path is up, nothing is lost.**  What the client has sent behind its header and
    the target has not been sent, and what the target has sent and the client has not been
    sent, lies in order in the buffers of the path: the app's, the connection's, and those
    of the relay's two sockets. -/
theorem nothing_is_lost {e : Ends} {s : Path} {moves : List PathMove} {target : List (List Char)}
    {now : ℕ} {t : Relay.Tunnel} (hrun : run (Path.step e) .start moves = some s)
    (htarget : clientTarget e.platform s.bridge.client.received = some target)
    (hreadable : Readable e target.flatten) (hrelay : s.relay = .handled now (.tunnel t))
    (haccepted : s.bridge.Accepted) (hopen : s.bridge.phase ≠ .closed) (hopen' : t.client.destroyed = false) :
    behindHeader s.bridge.client.stream =
      t.target.sent ++ t.target.pending ++ t.client.unread ++ s.toRelay ++ s.bridge.underWay .client ∧
    ∃ passed, s.bridge.client.sent = MacClient.established ++ passed ∧
      t.target.arrived =
        passed ++ s.bridge.underWay .remote ++ s.toBridge ++ t.client.pending ++ t.target.unread := by
  have hinv := Path.inv_of_run hrun
  have hne : s.relay ≠ .reading [] := by
    rw [hrelay]
    intro heq
    cases heq
  obtain ⟨hhead, rest, hsent, -⟩ := hinv.request htarget hne
  have hfollows := hinv.follows _ hreadable hhead
  rw [hrelay] at hfollows
  obtain ⟨hpiped, head, port, host, -, hdialled, hstream⟩ := hfollows
  obtain ⟨behind, hanswered⟩ := answered_of_accepted hinv.replied haccepted
  have hconnected := (hinv.answered hrelay hpiped hanswered).1
  obtain ⟨⟨request, up, hrequest, hup, hupWay⟩, passed, hpassed, hdownWay⟩ :=
    (MacClient.Bridge.transparent_iff_drained hinv.bridge haccepted).mpr
      (MacClient.Bridge.drained_of_ne hopen)
  obtain ⟨hclient, htarget'⟩ := hpiped.given hconnected hopen'
  constructor
  · have hhead' : t.head = head := congrArg (fun dialled => dialled.2.1) hdialled
    have hwhole : connectBytes target.flatten e.proxy.token.toList ++ (head ++ t.client.arrived ++ s.toRelay) =
        connectBytes target.flatten e.proxy.token.toList ++ up := by
      rw [← Path.request_eq htarget hrequest, ← hup, Path.request_eq htarget hrequest, ← List.append_assoc,
        hstream]
      exact List.take_append_drop ..
    rw [← hupWay, ← List.append_cancel_left hwhole, Socket.arrived, ← List.append_assoc, ← hhead', ← htarget']
  · obtain ⟨header, hcut, -⟩ := hanswered
    have hdown : s.bridge.remote.stream ++ s.toBridge = t.client.sent := by
      have hdown := hinv.down
      rw [hrelay] at hdown
      obtain ⟨more, hmore⟩ := hdown
      rw [Path.toBridge, hrelay, ← hmore, List.drop_left]
      exact hmore
    -- the app and the relay find the same header in front of what the target has sent
    have hcut' := cutAt_append (cutAt_append hcut s.bridge.remote.incoming) (s.toBridge ++ t.client.pending)
    have hall : s.bridge.remote.received ++ s.bridge.remote.incoming ++ (s.toBridge ++ t.client.pending) =
        Relay.established ++ t.target.read := by
      rw [← hclient, ← hdown, Channel.stream, List.append_assoc, List.append_assoc, List.append_assoc]
    rw [hall, cutAt_append cutAt_established, List.nil_append] at hcut'
    have hread : t.target.read = behind ++ s.bridge.remote.incoming ++ (s.toBridge ++ t.client.pending) :=
      (Prod.mk.inj (Option.some.inj hcut')).2
    refine ⟨passed, hpassed, ?_⟩
    rw [hdownWay, MacClient.Bridge.behindHeader_stream hcut, Socket.arrived, hread]
    simp only [List.append_assoc]

/-! ### A server, and a path through it -/

section Sample

theorem cutAt_cons_of_not_prefix {a : UInt8} {bytes : Bytes} (h : ¬ doubleCRLF <+: a :: bytes) :
    cutAt doubleCRLF (a :: bytes) = (cutAt doubleCRLF bytes).map fun cut => (a :: cut.1, cut.2) :=
  if_neg h

/-- A part without CR, and what follows it. -/
theorem cutAt_append_of_not_mem {line bytes : Bytes} (h : 13 ∉ line) :
    cutAt doubleCRLF (line ++ bytes) = (cutAt doubleCRLF bytes).map fun cut => (line ++ cut.1, cut.2) := by
  induction line with
  | nil => simp
  | cons a line ih =>
    rw [List.mem_cons, not_or] at h
    have hnot : ¬ doubleCRLF <+: a :: (line ++ bytes) := by
      intro hstart
      exact h.1 (List.cons_prefix_cons.mp hstart).1
    rw [List.cons_append, cutAt_cons_of_not_prefix hnot, ih h.2, Option.map_map]
    rfl

/-- A line, and what follows it. -/
theorem cutAt_line {line bytes : Bytes} (h : 13 ∉ line) (hne : bytes.head? ≠ some 13) :
    cutAt doubleCRLF (line ++ 13 :: 10 :: bytes) =
      (cutAt doubleCRLF bytes).map fun cut => (line ++ 13 :: 10 :: cut.1, cut.2) := by
  have hfirst : ¬ doubleCRLF <+: 13 :: 10 :: bytes := by
    intro hstart
    simp only [doubleCRLF, List.cons_prefix_cons, true_and] at hstart
    obtain ⟨rest, hrest⟩ := hstart
    rw [← hrest] at hne
    exact hne rfl
  have hsecond : ¬ doubleCRLF <+: 10 :: bytes := by
    intro hstart
    exact absurd (List.cons_prefix_cons.mp hstart).1 (by decide)
  rw [cutAt_append_of_not_mem h, cutAt_cons_of_not_prefix hfirst, cutAt_cons_of_not_prefix hsecond,
    Option.map_map, Option.map_map]
  rfl

/-- The request without the blank line. -/
def connectHeader (target token : Bytes) : Bytes :=
  (Utf8.encode "CONNECT ".toList ++ target ++ Utf8.encode " HTTP/1.1".toList) ++
    13 :: 10 :: ((Utf8.encode "Host: ".toList ++ target) ++
      13 :: 10 :: (Utf8.encode "x-session-token: ".toList ++ token))

theorem cutAt_connectRequest {target token : Bytes} (htarget : 13 ∉ target) (htoken : 13 ∉ token) :
    cutAt doubleCRLF (MacClient.connectRequest target token) = some (connectHeader target token, []) := by
  have hrequest : MacClient.connectRequest target token =
      (Utf8.encode "CONNECT ".toList ++ target ++ Utf8.encode " HTTP/1.1".toList) ++
        13 :: 10 :: ((Utf8.encode "Host: ".toList ++ target) ++
          13 :: 10 :: ((Utf8.encode "x-session-token: ".toList ++ token) ++ doubleCRLF)) := by
    simp only [MacClient.connectRequest, List.append_assoc]
    rfl
  have hline : 13 ∉ Utf8.encode "CONNECT ".toList ++ target ++ Utf8.encode " HTTP/1.1".toList := by
    simp only [List.mem_append, htarget, or_false]
    decide +kernel
  have hhost : 13 ∉ Utf8.encode "Host: ".toList ++ target := by
    simp only [List.mem_append, htarget, or_false]
    decide +kernel
  have hvalue : 13 ∉ Utf8.encode "x-session-token: ".toList ++ token := by
    simp only [List.mem_append, htoken, or_false]
    decide +kernel
  have hlast : cutAt doubleCRLF doubleCRLF = some ([], []) := by decide
  -- neither of the two lines that follow begins with a CR
  have hH (heq : some (72 : UInt8) = some 13) : False := absurd (Option.some.inj heq) (by decide)
  have hx (heq : some (120 : UInt8) = some 13) : False := absurd (Option.some.inj heq) (by decide)
  rw [hrequest, cutAt_line hline (by exact hH), cutAt_line hhost (by exact hx), cutAt_append_of_not_mem hvalue, hlast]
  simp only [Option.map_some, List.append_nil]
  rfl

/-- A server that takes the target from between the spaces of the first line, and the token
    from behind the last space. -/
def sampleRead (bytes : Bytes) : HttpRead :=
  match cutAt doubleCRLF bytes with
  | none => .waiting
  | some (header, head) =>
      let target := (header.drop 8).takeWhile (· ≠ 32)
      let token := (header.reverse.takeWhile (· ≠ 32)).reverse
      .connect ⟨(Utf8.decodeStrict target).map String.ofList, (Utf8.decodeStrict token).map String.ofList⟩ head

/-- A target and a token that are written in a header, without CR and spaces. -/
def IsPlain (value : List Char) : Prop := '\r' ∉ value ∧ ' ' ∉ value

theorem isPlain_of_authority {target : List Char} (h : IsAuthority target) : IsPlain target := by
  constructor
  · intro hmem
    exact absurd (h.2 '\r' hmem) (by decide)
  · intro hmem
    exact absurd (h.2 ' ' hmem) (by decide)

theorem isPlain_of_fieldValue {token : List Char} (h : IsFieldValue token) : IsPlain token := by
  constructor
  · intro hmem
    exact absurd (h.2 '\r' hmem).1 (by decide)
  · intro hmem
    exact absurd (h.2 ' ' hmem).1 (by decide)

theorem cutAt_connectBytes {target token : List Char} (htarget : IsPlain target) (htoken : IsPlain token) :
    cutAt doubleCRLF (connectBytes target token) =
      some (connectHeader (Utf8.encode target) (Utf8.encode token), []) := by
  have hcr {value : List Char} (h : IsPlain value) : 13 ∉ Utf8.encode value := by
    intro hmem
    exact h.1 ((Utf8.mem_encode_iff (c := '\r') (by decide)).mp hmem)
  exact cutAt_connectRequest (hcr htarget) (hcr htoken)

theorem takeWhile_append_space {bytes : Bytes} (h : 32 ∉ bytes) (rest : Bytes) :
    (bytes ++ 32 :: rest).takeWhile (· ≠ 32) = bytes := by
  have hspace : ∀ b ∈ bytes, decide (b ≠ 32) = true := by
    intro b hb
    apply decide_eq_true
    intro heq
    exact h (heq ▸ hb)
  rw [List.takeWhile_append_of_pos hspace]
  simp

theorem sampleRead_whole {target token : List Char} (htarget : IsPlain target) (htoken : IsPlain token)
    (head : Bytes) : sampleRead (connectBytes target token ++ head) = .connect (connectRequest target token) head := by
  have hspace {value : List Char} (h : IsPlain value) : 32 ∉ Utf8.encode value := by
    intro hmem
    exact h.2 ((Utf8.mem_encode_iff (c := ' ') (by decide)).mp hmem)
  have hcut := cutAt_append (cutAt_connectBytes htarget htoken) head
  have htargetBytes : ((connectHeader (Utf8.encode target) (Utf8.encode token)).drop 8).takeWhile (· ≠ 32) =
      Utf8.encode target := by
    have hline : (connectHeader (Utf8.encode target) (Utf8.encode token)).drop 8 =
        Utf8.encode target ++ 32 :: (Utf8.encode "HTTP/1.1".toList ++
          13 :: 10 :: ((Utf8.encode "Host: ".toList ++ Utf8.encode target) ++
            13 :: 10 :: (Utf8.encode "x-session-token: ".toList ++ Utf8.encode token))) := by
      simp only [connectHeader, List.append_assoc]
      rfl
    rw [hline]
    exact takeWhile_append_space (hspace htarget) _
  have htokenBytes : ((connectHeader (Utf8.encode target) (Utf8.encode token)).reverse.takeWhile
      (· ≠ 32)).reverse = Utf8.encode token := by
    have hline : connectHeader (Utf8.encode target) (Utf8.encode token) =
        ((Utf8.encode "CONNECT ".toList ++ Utf8.encode target ++ Utf8.encode " HTTP/1.1".toList) ++
          13 :: 10 :: ((Utf8.encode "Host: ".toList ++ Utf8.encode target) ++
            13 :: 10 :: Utf8.encode "x-session-token:".toList)) ++ 32 :: Utf8.encode token := by
      simp only [connectHeader, List.append_assoc, List.cons_append]
      rfl
    rw [hline, List.reverse_append, List.reverse_cons, List.append_assoc, List.singleton_append,
      takeWhile_append_space (by rw [List.mem_reverse]; exact hspace htoken), List.reverse_reverse]
  rw [sampleRead, hcut]
  dsimp only
  rw [htargetBytes, htokenBytes, Utf8.decodeStrict_eq_some_iff.mpr rfl, Utf8.decodeStrict_eq_some_iff.mpr rfl]
  rfl

/-- It reads every request of the app. -/
def sampleHttp : HttpServer where
  read := sampleRead
  read_part := by
    intro target token htarget htoken _ part hpart hne
    have hwhole := cutAt_connectBytes (isPlain_of_authority htarget) (isPlain_of_fieldValue htoken)
    cases hcut : cutAt doubleCRLF part with
    | none => rw [sampleRead, hcut]
    | some cut =>
      obtain ⟨rest, hrest⟩ := hpart
      have happend := cutAt_append hcut rest
      rw [hrest, hwhole] at happend
      have hnil := (List.append_eq_nil_iff.mp (Prod.mk.inj (Option.some.inj happend)).2.symm).2
      rw [hnil, List.append_nil] at hrest
      exact absurd hrest hne
  read_whole := by
    intro target token htarget htoken _ head
    exact sampleRead_whole (isPlain_of_authority htarget) (isPlain_of_fieldValue htoken) head

def sampleEnds : Ends where
  platform := MacClient.samplePlatform
  proxy := ⟨MacClient.localPort, "127.0.0.1", 8080, Relay.sampleToken⟩
  http := sampleHttp
  server := Relay.sampleServer
  sign := Relay.sampleSign
  highWaterMark := 16384

def sampleTarget : List (List Char) := "example.com:443".toList.map fun c => [c]

def sampleTime : ℕ := 1000000001000

/-- The client says hi with its header, and so does the target.  Both times the first byte
    arrives, and the second is on the way. -/
def sampleMoves : List PathMove :=
  [.bridge (.peerSends .client (MacClient.sampleConnect ++ MacClient.Bridge.hi)),
    .bridge (.receive .client (MacClient.sampleConnect.length + 2) false false),
    .toRelay sampleTime 100, .toRelay sampleTime 145, .relay sampleTime .connected,
    .relay sampleTime (.flushed .client 39), .toBridge 39, .bridge (.receive .remote 39 false false),
    .bridge .contentProcessed, .toRelay sampleTime 1, .relay sampleTime (.data .client 1),
    .relay sampleTime (.flushed .target 1), .relay sampleTime (.arrives .target MacClient.Bridge.hi),
    .relay sampleTime (.data .target 2), .relay sampleTime (.flushed .client 1), .toBridge 1,
    .bridge (.receive .remote 1 false false)]

/-- The path is up, for that target. -/
def isUp (s : Path) (t : Relay.Tunnel) : Bool :=
  (match s.bridge.phase with
    | .pumping => true
    | _ => false) &&
  decide (clientTarget MacClient.samplePlatform s.bridge.client.received = some sampleTarget ∧
    t.client.destroyed = false)

/-- The relay has a tunnel that is up. -/
def isRelaying (s : Path) : Bool :=
  match s.relay with
  | .handled now (.tunnel t) => decide (now = sampleTime) && isUp s t
  | _ => false

theorem exists_up : ∃ s t, run (Path.step sampleEnds) .start sampleMoves = some s ∧
    s.relay = .handled sampleTime (.tunnel t) ∧ isUp s t = true := by
  have heval : (run (Path.step sampleEnds) .start sampleMoves).any isRelaying = true := by decide +kernel
  obtain ⟨s, hrun, hs⟩ := (Option.any_eq_true ..).mp heval
  unfold isRelaying at hs
  split at hs
  · next now t hrelay =>
    rw [Bool.and_eq_true, decide_eq_true_iff] at hs
    rw [hs.1] at hrelay
    exact ⟨s, t, hrun, hrelay, hs.2⟩
  · cases hs

theorem phase_of_isUp {s : Path} {t : Relay.Tunnel} (h : isUp s t = true) : s.bridge.phase = .pumping ∧
    clientTarget MacClient.samplePlatform s.bridge.client.received = some sampleTarget ∧
    t.client.destroyed = false := by
  unfold isUp at h
  rw [Bool.and_eq_true, decide_eq_true_iff] at h
  refine ⟨?_, h.2⟩
  cases hphase : s.bridge.phase with
  | pumping => rfl
  | _ =>
    rw [hphase] at h
    cases h.1

theorem readable_sample : Readable sampleEnds sampleTarget.flatten := by
  have hauthority : (sampleTarget.flatten.all fun c => isUnescaped c || c == ':') = true := by decide +kernel
  have hvalue : (sampleEnds.proxy.token.toList.all fun c => decide (0x21 ≤ c.toNat ∧ c.toNat ≤ 0x7E)) = true := by
    decide +kernel
  refine ⟨⟨by decide, fun c hc => ?_⟩, ⟨by decide +kernel, fun c hc => ?_⟩, by decide +kernel⟩
  · simpa using List.all_eq_true.mp hauthority c hc
  · exact of_decide_eq_true (List.all_eq_true.mp hvalue c hc)

theorem passed_on_in_order_hi : ∃ (s : Path) (t : Relay.Tunnel), run (Path.step sampleEnds) .start sampleMoves = some s ∧
    s.relay = .handled sampleTime (.tunnel t) ∧
    t.target.sent <+: behindHeader s.bridge.client.stream ∧
    (s.bridge.client.sent = [] ∨ s.bridge.client.sent = MacClient.badGateway ∨
      ∃ passed, s.bridge.client.sent = MacClient.established ++ passed ∧ passed <+: t.target.arrived) := by
  obtain ⟨s, t, hrun, hrelay, hup⟩ := exists_up
  obtain ⟨-, htarget, -⟩ := phase_of_isUp hup
  exact ⟨s, t, hrun, hrelay, passed_on_in_order hrun htarget readable_sample hrelay⟩

theorem nothing_is_lost_hi : ∃ (s : Path) (t : Relay.Tunnel), run (Path.step sampleEnds) .start sampleMoves = some s ∧
    behindHeader s.bridge.client.stream =
      t.target.sent ++ t.target.pending ++ t.client.unread ++ s.toRelay ++ s.bridge.underWay .client ∧
    ∃ passed, s.bridge.client.sent = MacClient.established ++ passed ∧
      t.target.arrived =
        passed ++ s.bridge.underWay .remote ++ s.toBridge ++ t.client.pending ++ t.target.unread := by
  obtain ⟨s, t, hrun, hrelay, hup⟩ := exists_up
  obtain ⟨hphase, htarget, hopen⟩ := phase_of_isUp hup
  have haccepted : s.bridge.Accepted := by
    unfold MacClient.Bridge.Accepted
    rw [hphase]
    trivial
  have hopen' : s.bridge.phase ≠ .closed := by
    rw [hphase]
    intro heq
    cases heq
  exact ⟨s, t, hrun, nothing_is_lost hrun htarget readable_sample hrelay haccepted hopen' hopen⟩

end Sample

end DVoD.Route
