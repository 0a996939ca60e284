import DVoD.MacClient.Bridge

/-!
# What the relay is sent first

The request that the local proxy writes before any bytes of the tunnel.  Its target comes
out of the client's header and its token out of a link, and neither is escaped:
`upstream_iff` says when the request has the three lines it should have.
-/

namespace DVoD.MacClient

open DVoD.Machine DVoD.Net DVoD.Text

/-! ### Three lines -/

/-- Without CR, LF and space. -/
def Clean (bytes : Bytes) : Prop := 13 ∉ bytes ∧ 10 ∉ bytes ∧ 32 ∉ bytes

/-- One CONNECT for the target, of three lines and the empty one. -/
def IsConnectRequest (target request : Bytes) : Prop :=
  Clean target ∧ ∃ token, Clean token ∧ request = connectRequest target token

/-- Nothing was sent, or first a CONNECT for the client's target, and then the client's bytes. -/
def Bridge.Upstream (platform : Platform) (s : Bridge) : Prop :=
  s.remote.sends = [] ∨
  ∃ target request rest, clientTarget platform s.client.received = some target ∧
    s.remote.sends = request :: rest ∧ IsConnectRequest (Utf8.encode target.flatten) request ∧
    rest.flatten <+: behindHeader s.client.received

/-- A CR or an LF that is no part of a CR LF, or a space that goes with other scalars. -/
def Loose (character : List Char) : Prop :=
  character = ['\r'] ∨ character = ['\n'] ∨ (' ' ∈ character ∧ character ≠ [' '])

section Clean

theorem clean_encode_iff {s : List Char} : Clean (Utf8.encode s) ↔ '\r' ∉ s ∧ '\n' ∉ s ∧ ' ' ∉ s := by
  have hcr := Utf8.mem_encode_iff (c := '\r') (by decide) (s := s)
  have hlf := Utf8.mem_encode_iff (c := '\n') (by decide) (s := s)
  have hspace := Utf8.mem_encode_iff (c := ' ') (by decide) (s := s)
  exact and_congr (not_congr hcr) (and_congr (not_congr hlf) (not_congr hspace))

theorem isConnectRequest_iff {target token : Bytes} :
    IsConnectRequest target (connectRequest target token) ↔ Clean target ∧ Clean token := by
  constructor
  · rintro ⟨htarget, token', htoken', heq⟩
    unfold connectRequest at heq
    have htoken := List.append_cancel_left (List.append_cancel_right heq)
    rw [htoken]
    exact ⟨htarget, htoken'⟩
  · rintro ⟨htarget, htoken⟩
    exact ⟨htarget, token, htoken, rfl⟩

end Clean

section Target

variable {data : CharacterData} {headerText : Option (List Char)} {target : List (List Char)}

/-- The target is a piece of the header text between CR LFs and spaces. -/
theorem mem_target (h : requestTarget data headerText = some target) {character : List Char}
    (hmem : character ∈ target) :
    ∃ text, headerText = some text ∧ character ∈ data.characters text ∧ character ≠ ['\r', '\n'] ∧
      character ≠ [' '] := by
  unfold requestTarget at h
  obtain ⟨text, htext, h⟩ := Option.bind_eq_some_iff.mp h
  obtain ⟨firstLine, hfirst, h⟩ := Option.bind_eq_some_iff.mp h
  split at h
  · dsimp only at h
    split at h
    · obtain ⟨hline, hspace⟩ := mem_of_mem_splitCharacters (List.mem_of_getElem? h) hmem
      obtain ⟨hcharacter, hcrlf⟩ := mem_of_mem_splitCharacters (List.mem_of_head? hfirst) hline
      exact ⟨text, htext, hcharacter, hcrlf, hspace⟩
    · cases h
  · cases h

theorem clean_target_iff (h : requestTarget data headerText = some target) :
    Clean (Utf8.encode target.flatten) ↔ ∀ character ∈ target, ¬ Loose character := by
  rw [clean_encode_iff]
  constructor
  · rintro ⟨hcr, hlf, hspace⟩ character hmem hloose
    have hflatten {c : Char} (hc : c ∈ character) : c ∈ target.flatten :=
      List.mem_flatten.mpr ⟨character, hmem, hc⟩
    rcases hloose with hloose | hloose | ⟨hloose, -⟩
    · exact hcr (hflatten (by rw [hloose]; exact List.mem_singleton_self _))
    · exact hlf (hflatten (by rw [hloose]; exact List.mem_singleton_self _))
    · exact hspace (hflatten hloose)
  · intro hnot
    have hproper {character : List Char} (hmem : character ∈ target) :
        '\r' ∉ character ∧ '\n' ∉ character ∧ ' ' ∉ character := by
      obtain ⟨text, -, hcharacter, hcrlf, hspace⟩ := mem_target h hmem
      have hloose := hnot character hmem
      have hspace' : ' ' ∉ character := by
        intro hc
        exact hloose (Or.inr (Or.inr ⟨hc, hspace⟩))
      rcases data.properCluster_of_mem hcharacter with ⟨hcr, hlf⟩ | hcr | hlf | hboth
      · exact ⟨hcr, hlf, hspace'⟩
      · exact absurd (Or.inl hcr) hloose
      · exact absurd (Or.inr (Or.inl hlf)) hloose
      · exact absurd hboth hcrlf
    refine ⟨?_, ?_, ?_⟩
    · intro hc
      obtain ⟨character, hmem, hc⟩ := List.mem_flatten.mp hc
      exact (hproper hmem).1 hc
    · intro hc
      obtain ⟨character, hmem, hc⟩ := List.mem_flatten.mp hc
      exact (hproper hmem).2.1 hc
    · intro hc
      obtain ⟨character, hmem, hc⟩ := List.mem_flatten.mp hc
      exact (hproper hmem).2.2 hc

end Target

/-! ### Runs -/

section Runs

variable {platform : Platform} {server : LocalProxyServer} {s : Bridge}

/-- The request comes first, and what follows are bytes from behind the client's header. -/
theorem Bridge.Inv.sends (h : s.Inv platform server) :
    (s.remote.sends = [] ∧ requestOf platform server s.client.received = none) ∨
    ∃ request rest, s.remote.sends = request :: rest ∧
      requestOf platform server s.client.received = some request ∧
      rest.flatten <+: behindHeader s.client.received := by
  have hone {request : Bytes} (hsends : s.remote.sends = [request])
      (hrequest : requestOf platform server s.client.received = some request) :
      ∃ request rest, s.remote.sends = request :: rest ∧
        requestOf platform server s.client.received = some request ∧
        rest.flatten <+: behindHeader s.client.received :=
    ⟨request, [], hsends, hrequest, List.nil_prefix⟩
  have htunnel (htunnelled : s.Tunnelled platform server) :
      ∃ request rest, s.remote.sends = request :: rest ∧
        requestOf platform server s.client.received = some request ∧
        rest.flatten <+: behindHeader s.client.received := by
    obtain ⟨request, up, down, hasked, -, hhead, hsent, -⟩ := htunnelled
    obtain ⟨rest, hrest⟩ := List.head?_eq_some_iff.mp hhead
    obtain ⟨header, hcut⟩ := hasked.behind
    refine ⟨request, rest, hrest, hasked.request, ?_⟩
    rw [Channel.sent, hrest, List.flatten_cons] at hsent
    rw [behindHeader_of_cut hcut, List.append_cancel_left hsent]
  have hlist (hsends : s.remote.sends = (requestOf platform server s.client.received).toList) :
      (s.remote.sends = [] ∧ requestOf platform server s.client.received = none) ∨
      ∃ request rest, s.remote.sends = request :: rest ∧
        requestOf platform server s.client.received = some request ∧
        rest.flatten <+: behindHeader s.client.received := by
    cases hrequest : requestOf platform server s.client.received with
    | none =>
      rw [hrequest] at hsends
      exact Or.inl ⟨hsends, rfl⟩
    | some request =>
      rw [hrequest] at hsends hone
      exact Or.inr (hone hsends rfl)
  unfold Inv at h
  cases hphase : s.phase with
  | handleClient buffer =>
    rw [hphase] at h
    obtain ⟨hbuffer, hcut, -, -, hremote⟩ := h
    left
    rw [hremote, hbuffer]
    exact ⟨rfl, requestOf_of_none hcut⟩
  | bridgeToRemote leftover buffer =>
    rw [hphase] at h
    obtain ⟨request, hasked, hsends, -⟩ := h
    exact Or.inr (hone hsends hasked.request)
  | accepted leftover remoteLeftover =>
    rw [hphase] at h
    obtain ⟨request, hasked, hsends, -⟩ := h
    exact Or.inr (hone hsends hasked.request)
  | pumping =>
    rw [hphase] at h
    exact Or.inr (htunnel h.1)
  | closed =>
    rw [hphase] at h
    exact Or.inr (htunnel h)
  | rejecting =>
    rw [hphase] at h
    exact hlist h
  | rejected =>
    rw [hphase] at h
    exact hlist h

theorem inv_of_run {moves : List BridgeMove} (hrun : run (Bridge.step platform server) .start moves = some s) :
    s.Inv platform server :=
  run_keeps (fun h hstep => h.step hstep) hrun Bridge.inv_start

theorem Bridge.Inv.upstream_clean_iff (h : s.Inv platform server) : s.Upstream platform ↔
    ∀ target, clientTarget platform s.client.received = some target →
      platform.isPort server.remotePort = true →
      (∀ c ∈ server.token.toList, c ≠ '\r' ∧ c ≠ '\n' ∧ c ≠ ' ') ∧
        ∀ character ∈ target, ¬ Loose character := by
  have htoken : Clean (Utf8.encode server.token.toList) ↔
      ∀ c ∈ server.token.toList, c ≠ '\r' ∧ c ≠ '\n' ∧ c ≠ ' ' := by
    rw [clean_encode_iff]
    constructor
    · rintro ⟨hcr, hlf, hspace⟩ c hc
      refine ⟨?_, ?_, ?_⟩ <;> intro heq <;> rw [heq] at hc
      · exact hcr hc
      · exact hlf hc
      · exact hspace hc
    · intro hall
      exact ⟨fun hc => (hall _ hc).1 rfl, fun hc => (hall _ hc).2.1 rfl, fun hc => (hall _ hc).2.2 rfl⟩
  have hnone (hrequest : requestOf platform server s.client.received = none) {target : List (List Char)}
      (htarget : clientTarget platform s.client.received = some target) :
      platform.isPort server.remotePort ≠ true := by
    intro hport
    rw [requestOf, htarget, Option.bind_some, if_pos hport] at hrequest
    cases hrequest
  have hsome {target : List (List Char)} {request : Bytes}
      (htarget : clientTarget platform s.client.received = some target)
      (hrequest : requestOf platform server s.client.received = some request) :
      request = connectRequest (Utf8.encode target.flatten) (Utf8.encode server.token.toList) ∧
        platform.isPort server.remotePort = true := by
    rw [requestOf, htarget, Option.bind_some, Option.ite_none_right_eq_some] at hrequest
    exact ⟨(Option.some.inj hrequest.2).symm, hrequest.1⟩
  have hclean {target : List (List Char)}
      (htarget : clientTarget platform s.client.received = some target) :
      Clean (Utf8.encode target.flatten) ↔ ∀ character ∈ target, ¬ Loose character := by
    obtain ⟨cut, -, hcut⟩ := Option.bind_eq_some_iff.mp htarget
    exact clean_target_iff hcut
  rcases h.sends with ⟨hsends, hrequest⟩ | ⟨request, rest, hsends, hrequest, hrest⟩
  · refine iff_of_true (Or.inl hsends) ?_
    intro target htarget hport
    exact absurd hport (hnone hrequest htarget)
  · constructor
    · rintro (hnil | ⟨target, request', rest', htarget, hsends', hconnect, -⟩) target' htarget' hport
      · rw [hnil] at hsends
        cases hsends
      · rw [hsends'] at hsends
        obtain ⟨heq, -⟩ := List.cons.inj hsends
        obtain ⟨hvalue, -⟩ := hsome htarget hrequest
        rw [heq, hvalue, isConnectRequest_iff] at hconnect
        rw [htarget] at htarget'
        rw [← Option.some.inj htarget', ← hclean htarget]
        exact ⟨htoken.mp hconnect.2, hconnect.1⟩
    · intro hall
      cases htarget : clientTarget platform s.client.received with
      | none =>
        rw [requestOf, htarget] at hrequest
        cases hrequest
      | some target =>
        obtain ⟨hvalue, hport⟩ := hsome htarget hrequest
        obtain ⟨hcleanToken, hcleanTarget⟩ := hall target htarget hport
        refine Or.inr ⟨target, request, rest, htarget, hsends, ?_, hrest⟩
        rw [hvalue, isConnectRequest_iff, hclean htarget, htoken]
        exact ⟨hcleanTarget, hcleanToken⟩

/-- **When the request cannot be made to carry more**: exactly if the token has no CR, LF or
    space, and the client's target none that is part of no CR LF, or of a larger character. -/
theorem upstream_iff (link : ConnectRequest) {moves : List BridgeMove}
    (hrun : run (Bridge.step platform ⟨localPort, link.host, link.port, link.token⟩) .start moves = some s) :
    s.Upstream platform ↔
      ∀ target, Bridge.clientTarget platform s.client.received = some target →
        platform.isPort link.port = true →
        (∀ c ∈ link.token.toList, c ≠ '\r' ∧ c ≠ '\n' ∧ c ≠ ' ') ∧
          ∀ character ∈ target, ¬ Loose character :=
  (inv_of_run hrun).upstream_clean_iff

end Runs

/-! ### A link with a line of its own -/

section Sample

def samplePlatform : Platform := ⟨sampleCharacterData, fun port => port ≠ 0⟩

/-- `dvod://connect?token=e30.c2ln%0D%0Ax-admin:%201&host=127.0.0.1&port=8080`. -/
def injectingLink : URLComponents :=
  ⟨some "dvod", some "connect", some [("token", some "e30.c2ln\r\nx-admin: 1"),
    ("host", some "127.0.0.1"), ("port", some "8080")]⟩

def sampleConnect : Bytes := Utf8.encode "CONNECT example.com:443 HTTP/1.1\r\n\r\n".toList

/-- The client's header comes in one piece. -/
def connecting : List BridgeMove :=
  [.peerSends .client sampleConnect, .receive .client sampleConnect.length false false]

theorem header_injected : ∃ link s, parseConnectURL (some injectingLink) = some link ∧
    run (Bridge.step samplePlatform ⟨localPort, link.host, link.port, link.token⟩) .start connecting = some s ∧
    s.remote.sends = [Utf8.encode ("CONNECT example.com:443 HTTP/1.1\r\nHost: example.com:443\r\n" ++
      "x-session-token: e30.c2ln\r\nx-admin: 1\r\n\r\n").toList] ∧ ¬ s.Upstream samplePlatform := by
  have hlink : parseConnectURL (some injectingLink) =
      some ⟨"e30.c2ln\r\nx-admin: 1", "127.0.0.1", 8080⟩ := rfl
  have hwrites : (run (Bridge.step samplePlatform
      ⟨localPort, "127.0.0.1", 8080, "e30.c2ln\r\nx-admin: 1"⟩) .start connecting).any (fun s =>
        s.remote.sends = [Utf8.encode ("CONNECT example.com:443 HTTP/1.1\r\nHost: example.com:443\r\n" ++
          "x-session-token: e30.c2ln\r\nx-admin: 1\r\n\r\n").toList] &&
        (Bridge.clientTarget samplePlatform s.client.received).isSome) = true := by
    decide +kernel
  obtain ⟨s, hrun, hs⟩ := (Option.any_eq_true ..).mp hwrites
  rw [Bool.and_eq_true, decide_eq_true_iff] at hs
  obtain ⟨target, htarget⟩ := Option.isSome_iff_exists.mp hs.2
  refine ⟨_, s, hlink, hrun, hs.1, ?_⟩
  intro hupstream
  have hclean := ((inv_of_run hrun).upstream_clean_iff.mp hupstream target htarget (by decide)).1
  exact (hclean '\r' (by decide)).1 rfl

/-- A link with a token as the orchestrator issues them. -/
theorem upstream_iff_sample : ∃ s,
    run (Bridge.step samplePlatform ⟨localPort, "127.0.0.1", 8080, "e30.c2ln"⟩) .start connecting = some s ∧
    (s.Upstream samplePlatform ↔
      ∀ target, Bridge.clientTarget samplePlatform s.client.received = some target →
        samplePlatform.isPort 8080 = true →
        (∀ c ∈ "e30.c2ln".toList, c ≠ '\r' ∧ c ≠ '\n' ∧ c ≠ ' ') ∧
          ∀ character ∈ target, ¬ Loose character) := by
  have hsome : (run (Bridge.step samplePlatform ⟨localPort, "127.0.0.1", 8080, "e30.c2ln"⟩) .start
      connecting).isSome = true := by
    decide +kernel
  obtain ⟨s, hrun⟩ := Option.isSome_iff_exists.mp hsome
  exact ⟨s, hrun, upstream_iff ⟨"e30.c2ln", "127.0.0.1", 8080⟩ hrun⟩

end Sample

end DVoD.MacClient
