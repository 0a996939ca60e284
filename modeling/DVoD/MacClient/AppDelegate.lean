import DVoD.Machine.Run
import DVoD.MacClient.SessionToken
import DVoD.Text.Grapheme

/-!
# Connecting and disconnecting

The menu-bar app: `AppDelegate.swift` with what it drives, the system proxy settings
(`SystemProxy.swift`), the local listener (`LocalProxyServer.swift`) and the history
(`ConnectionHistoryStore.swift`).  The settings belong to the machine and outlive the
process; everything else dies with it.
-/

namespace DVoD.MacClient

open DVoD.Machine DVoD.Text

/-! ### `SystemProxy.swift` -/

structure Proxy where
  host : String
  port : ℕ
  enabled : Bool

/-- The HTTP and the HTTPS proxy of a network service. -/
structure ServiceProxies where
  web : Proxy
  secureWeb : Proxy

/-- The proxy settings of all network services. -/
abbrev Network := String → ServiceProxies

namespace SystemProxy

/-- What `networksetup` prints for `-listallnetworkservices`, and for `-getinfo`. -/
structure NetworkSetup where
  listAllNetworkServices : String
  getInfo : String → String

section ActiveServiceName

variable (data : CharacterData)

def contains (text piece : String) : Bool :=
  decide (data.characters piece.toList <:+: data.characters text.toList)

/-- `split(separator: "\n")`, as characters. -/
def characterLines (text : String) : List (List (List Char)) :=
  splitCharacters ['\n'] (data.characters text.toList)

def lines (text : String) : List String :=
  (characterLines data text).map fun line => String.ofList line.flatten

def candidates (setup : NetworkSetup) : List String :=
  (lines data setup.listAllNetworkServices).filter fun service =>
    !hasPrefix (data.characters service.toList) (data.characters "*".toList) && service ≠ "" &&
      !contains data service "asterisk"

def activeServiceName (setup : NetworkSetup) : Option String :=
  ((candidates data setup).find? fun service =>
    contains data (setup.getInfo service) "IP address" &&
      !contains data (setup.getInfo service) "IP address: none").or (candidates data setup).head?

variable {data}

theorem activeServiceName_eq_none {setup : NetworkSetup} :
    activeServiceName data setup = none ↔ candidates data setup = [] := by
  simp only [activeServiceName, Option.or_eq_none_iff, List.head?_eq_none_iff, and_iff_right_iff_imp]
  intro h
  rw [h, List.find?_nil]

end ActiveServiceName

/-- `-setwebproxy`, which also turns the proxy on. -/
def setWebProxy (network : Network) (service host : String) (port : ℕ) : Network :=
  Function.update network service { network service with web := ⟨host, port, true⟩ }

def setSecureWebProxy (network : Network) (service host : String) (port : ℕ) : Network :=
  Function.update network service { network service with secureWeb := ⟨host, port, true⟩ }

def setWebProxyState (network : Network) (service : String) (on : Bool) : Network :=
  Function.update network service
    { network service with web := { (network service).web with enabled := on } }

def setSecureWebProxyState (network : Network) (service : String) (on : Bool) : Network :=
  Function.update network service
    { network service with secureWeb := { (network service).secureWeb with enabled := on } }

def enable (network : Network) (service host : String) (port : ℕ) : Network :=
  let network := setWebProxy network service host port
  let network := setSecureWebProxy network service host port
  let network := setWebProxyState network service true
  setSecureWebProxyState network service true

def disable (network : Network) (service : String) : Network :=
  let network := setWebProxyState network service false
  setSecureWebProxyState network service false

variable {network : Network} {service other host : String} {port : ℕ}

theorem enable_self : enable network service host port service =
    ⟨⟨host, port, true⟩, ⟨host, port, true⟩⟩ := by
  simp [enable, setWebProxy, setSecureWebProxy, setWebProxyState, setSecureWebProxyState]

theorem enable_of_ne (h : other ≠ service) :
    enable network service host port other = network other := by
  simp [enable, setWebProxy, setSecureWebProxy, setWebProxyState, setSecureWebProxyState, h]

theorem disable_self : disable network service service =
    ⟨{ (network service).web with enabled := false },
      { (network service).secureWeb with enabled := false }⟩ := by
  simp [disable, setWebProxyState, setSecureWebProxyState]

theorem disable_of_ne (h : other ≠ service) : disable network service other = network other := by
  simp [disable, setWebProxyState, setSecureWebProxyState, h]

end SystemProxy

/-! ### The listener, the history and the state -/

/-- What a `LocalProxyServer` is made with. -/
structure LocalProxyServer where
  localPort : ℕ
  remoteHost : String
  remotePort : UInt16
  token : String
deriving DecidableEq

abbrev UUID := ℕ

structure ConnectionHistoryEntry where
  id : UUID
  relay : String
  tier : String
  connectedAt : ℕ
  disconnectedAt : Option ℕ

def recordConnect (entries : List ConnectionHistoryEntry) (id : UUID) (relay tier : String) (now : ℕ) :
    List ConnectionHistoryEntry :=
  ⟨id, relay, tier, now, none⟩ :: entries

/-- The first entry with the id is closed. -/
def recordDisconnect (entries : List ConnectionHistoryEntry) (id : UUID) (now : ℕ) :
    List ConnectionHistoryEntry :=
  match entries with
  | [] => []
  | entry :: rest =>
      if entry.id = id then { entry with disconnectedAt := some now } :: rest
      else entry :: recordDisconnect rest id now

inductive ConnectStep where
  | verifying
  | relay
  | proxy
  | connected

structure AppState where
  connected : Bool := false
  payload : Option SessionTokenPayload := none
  now : ℕ
  connectedSince : Option ℕ := none
  connectStep : Option ConnectStep := none

/-! ### Connect links -/

structure ConnectRequest where
  token : String
  host : String
  port : UInt16

/-- What `URLComponents(string:)` makes of a link. -/
structure URLComponents where
  scheme : Option String
  host : Option String
  queryItems : Option (List (String × Option String))

/-- `UInt16(_: String)`: decimal digits, with a sign if need be. -/
def uint16OfString (s : String) : Option UInt16 :=
  let ofDigits (digits : List Char) : Option ℕ :=
    if digits ≠ [] ∧ digits.all Char.isDigit then
      some (digits.foldl (fun n c => 10 * n + (c.toNat - '0'.toNat)) 0)
    else none
  let n := match s.toList with
    | '+' :: digits => ofDigits digits
    | '-' :: digits => (ofDigits digits).filter (· = 0)
    | digits => ofDigits digits
  (n.filter (· < 2 ^ 16)).map UInt16.ofNat

def parseConnectURL (components : Option URLComponents) : Option ConnectRequest := do
  let components ← components
  if components.scheme = some "dvod" ∧ components.host = some "connect" then
    let items := components.queryItems.getD []
    let value (name : String) := (items.find? fun item => item.1 = name).bind Prod.snd
    let token ← value "token"
    let host ← value "host"
    let port ← (value "port").bind uint16OfString
    return ⟨token, host, port⟩
  else none

/-! ### `AppDelegate.swift` -/

def localPort : ℕ := 8899

/-- The app and its process; `listeners` are those that run. -/
structure AppDelegate where
  state : AppState
  entries : List ConnectionHistoryEntry
  proxyServer : Option LocalProxyServer := none
  activeNetworkService : Option String := none
  expiryTimer : Bool := false
  historyEntryId : Option UUID := none
  listeners : List LocalProxyServer := []

namespace AppDelegate

def setConnectStep (app : AppDelegate) (connectStep : Option ConnectStep) : AppDelegate :=
  { app with state := { app.state with connectStep := connectStep } }

/-- `init` and `start`. -/
def startServer (app : AppDelegate) (server : LocalProxyServer) : AppDelegate :=
  { app with proxyServer := some server, listeners := app.listeners ++ [server] }

def disconnect (now : ℕ) (app : AppDelegate) (network : Network) : AppDelegate × Network :=
  ({ app with
      expiryTimer := false
      listeners := (app.proxyServer.map app.listeners.erase).getD app.listeners
      proxyServer := none
      activeNetworkService := none
      state := { app.state with
        connected := false, payload := none, connectedSince := none, connectStep := none }
      entries := (app.historyEntryId.map fun id => recordDisconnect app.entries id now).getD app.entries
      historyEntryId := none },
    (app.activeNetworkService.map (SystemProxy.disable network)).getD network)

/-- What `connect` finds: the time, whether a listener can be created on the port, the
    properties of scalars, the answers of `networksetup`, and a new `UUID`. -/
structure Surroundings where
  now : ℕ
  listens : Bool
  characterData : CharacterData
  networkSetup : SystemProxy.NetworkSetup
  uuid : UUID

def connect (s : Surroundings) (request : ConnectRequest) (app : AppDelegate) (network : Network) :
    AppDelegate × Network :=
  let (app, network) := app.disconnect s.now network
  let payload := decode request.token
  let app := app.setConnectStep (some .verifying)
  let app := app.setConnectStep (some .relay)
  if !s.listens then (app.setConnectStep none, network)
  else
    let app := app.startServer ⟨localPort, request.host, request.port, request.token⟩
    let app := app.setConnectStep (some .proxy)
    match SystemProxy.activeServiceName s.characterData s.networkSetup with
    | none => (app.setConnectStep none, network)
    | some service =>
        ({ app with
            activeNetworkService := some service
            state := { app.state with
              connectStep := some .connected
              payload := payload
              connected := true
              now := s.now
              connectedSince := some s.now }
            entries := recordConnect app.entries s.uuid ((payload.map (·.relay)).getD request.host)
              ((payload.map (·.tier)).getD "unknown") s.now
            historyEntryId := some s.uuid
            expiryTimer := true },
          SystemProxy.enable network service "127.0.0.1" localPort)

end AppDelegate

/-! ### The machine -/

/-- The instance that runs, and the proxy settings. -/
structure Mac where
  running : Option AppDelegate
  network : Network

namespace Mac

open AppDelegate

inductive Move where
  /-- The history is what the file has. -/
  | launch (now : ℕ) (entries : List ConnectionHistoryEntry)
  | handleGetURLEvent (components : Option URLComponents) (s : Surroundings)
  | disconnect (now : ℕ)
  | quit (now : ℕ)

def after (result : AppDelegate × Network) : Mac := ⟨some result.1, result.2⟩

def step (mac : Mac) : Move → Option Mac
  -- `terminateOtherRunningInstances`: the process is gone, with no chance to do anything
  | .launch now entries => some ⟨some { state := { now := now }, entries := entries }, mac.network⟩
  | .handleGetURLEvent components s =>
      mac.running.map fun app =>
        match parseConnectURL components with
        | none => mac
        | some request => after (app.connect s request mac.network)
  | .disconnect now => mac.running.map fun app => after (app.disconnect now mac.network)
  | .quit now => mac.running.map fun app => ⟨none, (app.disconnect now mac.network).2⟩

/-! ### Never half-connected -/

/-- The proxy is on and points at the local listener. -/
def Here (proxy : Proxy) : Prop :=
  proxy.enabled = true ∧ proxy.host = "127.0.0.1" ∧ proxy.port = localPort

/-- Just these services point at the local listener. -/
def PointsHere (network : Network) (services : String → Prop) : Prop :=
  ∀ service, (Here (network service).web ↔ services service) ∧
    (Here (network service).secureWeb ↔ services service)

def Off (network : Network) : Prop := PointsHere network fun _ => False

structure Idle (app : AppDelegate) (network : Network) : Prop where
  listeners : app.listeners = []
  activeNetworkService : app.activeNetworkService = none
  historyEntryId : app.historyEntryId = none
  network : Off network

structure Connected (app : AppDelegate) (network : Network) : Prop where
  listener : ∃ server, app.listeners = [server] ∧ server.localPort = localPort
  service : ∃ active, app.activeNetworkService = some active ∧
    PointsHere network fun service => service = active

/-- The state of the app, of its process and of the machine go together. -/
def Consistent (mac : Mac) : Prop :=
  match mac.running with
  | none => Off mac.network
  | some app => if app.state.connected = true then Connected app mac.network else Idle app mac.network

/-- No instance is replaced while it is connected, and no link is opened where a listener
    can be created and `networksetup` names no service. -/
def Clean (mac : Mac) : Move → Prop
  | .launch _ _ => ∀ app, mac.running = some app → app.state.connected = false
  | .handleGetURLEvent components s => mac.running ≠ none → parseConnectURL components ≠ none →
      s.listens = true → SystemProxy.candidates s.characterData s.networkSetup ≠ []
  | _ => True

/-- The listener that runs is the one that the app holds. -/
def Held (mac : Mac) : Prop :=
  ∀ app, mac.running = some app → app.listeners = app.proxyServer.toList

section Operations

variable {app : AppDelegate} {network : Network} {now : ℕ} {s : Surroundings}
  {request : ConnectRequest} {service : String}

theorem off_disable (h : PointsHere network fun other => other = service) :
    Off (SystemProxy.disable network service) := by
  intro other
  by_cases hother : other = service
  · rw [hother, SystemProxy.disable_self]
    simp [Here]
  · rw [SystemProxy.disable_of_ne hother, (h other).1, (h other).2]
    exact ⟨iff_false_intro hother, iff_false_intro hother⟩

theorem pointsHere_enable (h : Off network) (service : String) :
    PointsHere (SystemProxy.enable network service "127.0.0.1" localPort) fun other => other = service := by
  intro other
  by_cases hother : other = service
  · rw [hother, SystemProxy.enable_self]
    simp [Here]
  · rw [SystemProxy.enable_of_ne hother]
    exact ⟨(h other).1.trans (iff_false_intro hother).symm, (h other).2.trans (iff_false_intro hother).symm⟩

@[simp] theorem connected_disconnect : (app.disconnect now network).1.state.connected = false := rfl

@[simp] theorem proxyServer_disconnect : (app.disconnect now network).1.proxyServer = none := rfl

variable (network now) in
theorem listeners_disconnect (h : app.listeners = app.proxyServer.toList) :
    (app.disconnect now network).1.listeners = [] := by
  cases hserver : app.proxyServer with
  | none => simp [AppDelegate.disconnect, hserver, h]
  | some server => simp [AppDelegate.disconnect, hserver, h]

variable (now) in
/-- `disconnect` undoes all that `connect` did. -/
theorem idle_disconnect (hheld : app.listeners = app.proxyServer.toList)
    (h : if app.state.connected = true then Connected app network else Idle app network) :
    Idle (app.disconnect now network).1 (app.disconnect now network).2 where
  listeners := listeners_disconnect network now hheld
  activeNetworkService := rfl
  historyEntryId := rfl
  network := by
    split at h
    · obtain ⟨active, hactive, hnetwork⟩ := h.service
      simp only [AppDelegate.disconnect, hactive, Option.map_some, Option.getD_some]
      exact off_disable hnetwork
    · simp only [AppDelegate.disconnect, h.activeNetworkService, Option.map_none, Option.getD_none]
      exact h.network

/-- `connect` where no listener can be created. -/
theorem connect_of_not_listens (h : s.listens = false) :
    app.connect s request network =
      ((app.disconnect s.now network).1.setConnectStep none, (app.disconnect s.now network).2) := by
  simp only [AppDelegate.connect, h, Bool.not_false, if_true]
  rfl

/-- `connect` where `networksetup` names no service: the listener is left behind. -/
theorem connect_of_no_service (hlistens : s.listens = true)
    (hservice : SystemProxy.activeServiceName s.characterData s.networkSetup = none) :
    app.connect s request network =
      (((app.disconnect s.now network).1.startServer
        ⟨localPort, request.host, request.port, request.token⟩).setConnectStep none,
        (app.disconnect s.now network).2) := by
  simp only [AppDelegate.connect, hlistens, hservice, Bool.not_true, Bool.false_eq_true, if_false]
  rfl

theorem connect_of_service (hlistens : s.listens = true)
    (hservice : SystemProxy.activeServiceName s.characterData s.networkSetup = some service) :
    (app.connect s request network).1.state.connected = true ∧
    (app.connect s request network).1.activeNetworkService = some service ∧
    (app.connect s request network).1.proxyServer =
      some ⟨localPort, request.host, request.port, request.token⟩ ∧
    (app.connect s request network).1.listeners = (app.disconnect s.now network).1.listeners ++
      [⟨localPort, request.host, request.port, request.token⟩] ∧
    (app.connect s request network).2 =
      SystemProxy.enable (app.disconnect s.now network).2 service "127.0.0.1" localPort := by
  simp only [AppDelegate.connect, hlistens, hservice, Bool.not_true, Bool.false_eq_true, if_false]
  exact ⟨trivial, trivial, rfl, rfl, trivial⟩

theorem held_connect (h : app.listeners = app.proxyServer.toList) :
    (app.connect s request network).1.listeners = (app.connect s request network).1.proxyServer.toList := by
  have hnone := listeners_disconnect network s.now h
  cases hlistens : s.listens with
  | false =>
    rw [connect_of_not_listens hlistens]
    exact hnone
  | true =>
    rcases hservice : SystemProxy.activeServiceName s.characterData s.networkSetup with _ | service
    · rw [connect_of_no_service hlistens hservice]
      exact congrArg (· ++ [_]) hnone
    · obtain ⟨-, -, hserver, hlisteners, -⟩ := connect_of_service hlistens hservice
      rw [hlisteners, hserver, hnone]
      rfl

/-- `connect` leaves the app connected, or as it was before; unless it gives up between
    the listener and the proxy. -/
theorem consistent_connect (hheld : app.listeners = app.proxyServer.toList)
    (h : if app.state.connected = true then Connected app network else Idle app network)
    (hclean : s.listens = true → SystemProxy.candidates s.characterData s.networkSetup ≠ []) :
    if (app.connect s request network).1.state.connected = true then
      Connected (app.connect s request network).1 (app.connect s request network).2
    else Idle (app.connect s request network).1 (app.connect s request network).2 := by
  have hidle := idle_disconnect s.now hheld h
  cases hlistens : s.listens with
  | false =>
    rw [connect_of_not_listens hlistens]
    exact ⟨hidle.listeners, rfl, rfl, hidle.network⟩
  | true =>
    rcases hservice : SystemProxy.activeServiceName s.characterData s.networkSetup with _ | service
    · exact absurd (SystemProxy.activeServiceName_eq_none.mp hservice) (hclean hlistens)
    · obtain ⟨hconnected, hactive, -, hlisteners, hnetwork⟩ := connect_of_service hlistens hservice
      rw [if_pos hconnected]
      constructor
      · rw [hlisteners, hidle.listeners]
        exact ⟨_, rfl, rfl⟩
      · rw [hactive, hnetwork]
        exact ⟨service, rfl, pointsHere_enable hidle.network service⟩

end Operations

section Steps

variable {mac mac' : Mac} {m : Move}

theorem Held.step (h : Held mac) (hstep : mac.step m = some mac') : Held mac' := by
  intro app' happ'
  cases m with
  | launch now entries =>
    obtain rfl := Option.some.inj hstep
    obtain rfl := Option.some.inj happ'
    rfl
  | handleGetURLEvent components s =>
    obtain ⟨app, happ, rfl⟩ := Option.map_eq_some_iff.mp hstep
    rcases hrequest : parseConnectURL components with _ | request
    · rw [hrequest] at happ'
      exact h app' happ'
    · rw [hrequest] at happ'
      obtain rfl := Option.some.inj happ'
      exact held_connect (h app happ)
  | disconnect now =>
    obtain ⟨app, happ, rfl⟩ := Option.map_eq_some_iff.mp hstep
    obtain rfl := Option.some.inj happ'
    exact listeners_disconnect mac.network now (h app happ)
  | quit now =>
    obtain ⟨app, happ, rfl⟩ := Option.map_eq_some_iff.mp hstep
    cases happ'

theorem Consistent.of_running {app : AppDelegate} (h : Consistent mac) (happ : mac.running = some app) :
    if app.state.connected = true then Connected app mac.network else Idle app mac.network := by
  simpa only [Consistent, happ] using h

theorem Consistent.step (hheld : Held mac) (h : Consistent mac) (hclean : Clean mac m)
    (hstep : mac.step m = some mac') : Consistent mac' := by
  cases m with
  | launch now entries =>
    obtain rfl := Option.some.inj hstep
    have hoff : Off mac.network := by
      rcases happ : mac.running with _ | app
      · simpa only [Consistent, happ] using h
      · have hidle := h.of_running happ
        rw [hclean app happ] at hidle
        exact hidle.network
    exact ⟨rfl, rfl, rfl, hoff⟩
  | handleGetURLEvent components s =>
    obtain ⟨app, happ, rfl⟩ := Option.map_eq_some_iff.mp hstep
    rcases hrequest : parseConnectURL components with _ | request
    · exact h
    · have hservice := hclean (by rw [happ]; nofun) (by rw [hrequest]; nofun)
      exact consistent_connect (hheld app happ) (h.of_running happ) hservice
  | disconnect now =>
    obtain ⟨app, happ, rfl⟩ := Option.map_eq_some_iff.mp hstep
    exact idle_disconnect now (hheld app happ) (h.of_running happ)
  | quit now =>
    obtain ⟨app, happ, rfl⟩ := Option.map_eq_some_iff.mp hstep
    exact (idle_disconnect now (hheld app happ) (h.of_running happ)).network

/-- A launch that replaces a connected instance leaves a proxy on, and a link that is
    opened without a service leaves a listener behind. -/
theorem not_consistent_of_not_clean (h : Consistent mac) (hnot : ¬ Clean mac m) :
    ∃ mac', mac.step m = some mac' ∧ ¬ Consistent mac' := by
  cases m with
  | launch now entries =>
    refine ⟨_, rfl, fun hconsistent => hnot ?_⟩
    intro app happ
    have hidle : Idle _ mac.network := hconsistent
    rw [Bool.eq_false_iff]
    intro hconnected
    have hrunning := h.of_running happ
    rw [if_pos hconnected] at hrunning
    obtain ⟨active, -, hnetwork⟩ := hrunning.service
    exact (hidle.network active).1.mp ((hnetwork active).1.mpr rfl)
  | handleGetURLEvent components s =>
    simp only [Clean, Classical.not_imp, not_not] at hnot
    obtain ⟨hrunning, hparses, hlistens, hnone⟩ := hnot
    obtain ⟨app, happ⟩ := Option.ne_none_iff_exists'.mp hrunning
    obtain ⟨request, hrequest⟩ := Option.ne_none_iff_exists'.mp hparses
    refine ⟨after (app.connect s request mac.network), ?_, ?_⟩
    · simp only [Mac.step, happ, Option.map_some, hrequest]
    · rw [connect_of_no_service hlistens (SystemProxy.activeServiceName_eq_none.mpr hnone)]
      intro hconsistent
      have hidle : Idle _ _ := hconsistent
      exact absurd hidle.listeners (List.append_ne_nil_of_right_ne_nil _ (List.cons_ne_nil _ _))
  | disconnect now => exact absurd trivial hnot
  | quit now => exact absurd trivial hnot

end Steps

/-- **When the machine is never left half-connected.**  For every sequence of launches,
    links, disconnects and quits on a machine whose proxies do not point at the app yet:
    all states on the way are consistent exactly where no instance is replaced while it is
    connected, and no link is opened where there is a listener but no service. -/
theorem consistent_iff {network : Network} (hnetwork : Off network) (ms : List Move) :
    (∀ ms₁ ms₂ mac, ms = ms₁ ++ ms₂ → run step ⟨none, network⟩ ms₁ = some mac → Consistent mac) ↔
      AllMoves step Clean ⟨none, network⟩ ms := by
  refine always_good_iff (I := Held) ?_ ?_ ?_ ?_ hnetwork
  · intro mac m mac' hheld hstep
    exact hheld.step hstep
  · intro mac m mac' hheld h hclean hstep
    exact h.step hheld hclean hstep
  · intro mac m _ h hnot
    exact not_consistent_of_not_clean h hnot
  · intro app happ
    cases happ

/-! ### A link without a service -/

section Sample

def Sample.network : Network := fun _ => ⟨⟨"", 0, false⟩, ⟨"", 0, false⟩⟩

theorem Sample.off : Off Sample.network := by
  intro service
  simp [Sample.network, Here]

def Sample.link : URLComponents :=
  ⟨some "dvod", some "connect", some [("token", some "e30.c2ln"), ("host", some "127.0.0.1"), ("port", some "8080")]⟩

def Sample.networkSetup : SystemProxy.NetworkSetup where
  listAllNetworkServices := "An asterisk (*) denotes that a network service is disabled.\nThunderbolt Bridge\nWi-Fi\n"
  getInfo service :=
    if service = "Wi-Fi" then "DHCP Configuration\nIP address: 192.168.1.7\n"
    else "DHCP Configuration\nIP address: none\n"

example : SystemProxy.activeServiceName sampleCharacterData Sample.networkSetup = some "Wi-Fi" := by decide +kernel

def Sample.online : Surroundings := ⟨1000, true, sampleCharacterData, Sample.networkSetup, 7⟩

/-- All network services are switched off. -/
def Sample.offline : Surroundings := ⟨1000, true, sampleCharacterData, ⟨"", fun _ => ""⟩, 7⟩

theorem consistent_iff_twoLinks :
    Off Sample.network ∧
    ∀ ms₁ ms₂ mac, [.launch 0 [], .handleGetURLEvent (some Sample.link) Sample.online,
        .handleGetURLEvent (some Sample.link) Sample.online, .disconnect 2000, .quit 3000] = ms₁ ++ ms₂ →
      run step ⟨none, Sample.network⟩ ms₁ = some mac → Consistent mac := by
  have hlaunch : Clean ⟨none, Sample.network⟩ (.launch 0 []) := by
    intro app happ
    cases happ
  have hcandidates : SystemProxy.candidates sampleCharacterData Sample.networkSetup ≠ [] := by decide +kernel
  refine ⟨Sample.off, (consistent_iff Sample.off _).mpr ⟨hlaunch, fun mac _ => allMoves_of_mem ?_⟩⟩
  simpa [Clean, Sample.online] using fun _ _ _ => hcandidates

/-- The listener runs on, and the app says that it is not connected. -/
theorem listener_left_behind :
    ¬ ∀ (network : Network) (ms : List Move) (mac : Mac), Off network →
      run step ⟨none, network⟩ ms = some mac → Consistent mac := by
  intro hall
  have hlaunched : Consistent ⟨some { state := { now := 0 }, entries := [] }, Sample.network⟩ :=
    ⟨rfl, rfl, rfl, Sample.off⟩
  have hnot : ¬ Clean ⟨some { state := { now := 0 }, entries := [] }, Sample.network⟩
      (.handleGetURLEvent (some Sample.link) Sample.offline) := by
    intro hclean
    exact hclean (Option.some_ne_none _) (by decide +kernel) rfl (by decide)
  obtain ⟨mac, hstep, hmac⟩ := not_consistent_of_not_clean hlaunched hnot
  exact hmac (hall Sample.network [.launch 0 [], .handleGetURLEvent (some Sample.link) Sample.offline]
    mac Sample.off (run_cons.mpr ⟨_, rfl, run_cons.mpr ⟨mac, hstep, rfl⟩⟩))

end Sample

end Mac

end DVoD.MacClient
