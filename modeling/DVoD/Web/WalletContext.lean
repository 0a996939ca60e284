import DVoD.Machine.Run

/-!
# The wallet of the page

`WalletProvider` of the web client: React state that a silent reconnect, the user's connects
and disconnects and the events of the wallets all write, from promises that settle in any
order.  Setters act on the state at once; `render` commits it, and the effects whose
dependencies have changed are run some time later (`flush`).  `last_choice_iff` says when
the wallet that the user last chose is the one that pays.
-/

namespace DVoD.Web

open DVoD.Machine

/-! ### State -/

/-- Of an announced wallet, what the provider reads: `on` and `removeListener` say whether
    its provider has these methods. -/
structure EIP6963ProviderDetail where
  uuid : String
  rdns : String
  on : Bool
  removeListener : Bool
deriving DecidableEq

/-- The React state. -/
structure Wallet where
  providers : List EIP6963ProviderDetail
  connectedProvider : Option EIP6963ProviderDetail
  account : Option String
  connecting : Bool
  isModalOpen : Bool

/-- The dependencies of the effects. -/
structure View where
  providers : List EIP6963ProviderDetail
  connectedProvider : Option EIP6963ProviderDetail
deriving DecidableEq

inductive Method where
  | eth_accounts
  | eth_requestAccounts
deriving DecidableEq

/-- A request that a wallet has not answered. -/
structure WalletRequest where
  id : ℕ
  method : Method
  detail : EIP6963ProviderDetail

/-- The latest `connect` or `disconnect` of the user. -/
inductive Action where
  | none
  | pending (request : ℕ)
  | completed
deriving DecidableEq

/-- The component: its state, what was committed last, what the effects ran with last, the
    listeners that they have registered, and `localStorage`.  The last three are history
    variables: the wallet that gave the account, the latest action, and its result, which is
    the choice at the click until the action completes.  Account changes of its wallet change
    the result. -/
structure WalletProvider where
  wallet : Wallet
  lastWallet : Option String
  rendered : View
  effects : View
  listeners : List EIP6963ProviderDetail
  requests : List WalletRequest
  nextId : ℕ
  owner : Option EIP6963ProviderDetail
  action : Action
  result : Option (EIP6963ProviderDetail × String)

namespace WalletProvider

inductive Move where
  | announceProvider (detail : EIP6963ProviderDetail)
  | render
  | flush
  | openModal
  | closeModal
  | connect (uuid : String)
  | disconnect
  | fulfilled (id : ℕ) (accounts : List String)
  | rejected (id : ℕ)
  | accountsChanged (detail : EIP6963ProviderDetail) (accounts : List String)

/-- After the first effects, which find no wallet. -/
def start (lastWallet : Option String) : WalletProvider :=
  ⟨⟨[], none, none, false, false⟩, lastWallet, ⟨[], none⟩, ⟨[], none⟩, [], [], 0, none, .none, none⟩

/-- `accounts[0]`, where it is truthy. -/
def firstAccount (accounts : List String) : Option String := accounts.head?.filter (· ≠ "")

section Steps

variable (s : WalletProvider)

/-! ### Effects -/

/-- The silent reconnect; its `lastRdns` is read when the effect runs. -/
def silentReconnect : WalletProvider :=
  match s.lastWallet.filter (· ≠ ""), s.rendered.connectedProvider with
  | some lastRdns, none =>
      match s.rendered.providers.find? fun p => p.rdns = lastRdns with
      | some detail =>
          { s with
            requests := s.requests ++ [⟨s.nextId, .eth_accounts, detail⟩], nextId := s.nextId + 1 }
      | none => s
  | _, _ => s

/-- `provider.removeListener?.(…)`, for the provider that the effect ran with last. -/
def removeListener : List EIP6963ProviderDetail :=
  match s.effects.connectedProvider with
  | some detail => if detail.on ∧ detail.removeListener then s.listeners.erase detail else s.listeners
  | none => s.listeners

def addListener (detail : Option EIP6963ProviderDetail) (listeners : List EIP6963ProviderDetail) :
    List EIP6963ProviderDetail :=
  listeners ++ (detail.filter EIP6963ProviderDetail.on).toList

/-- Clean-ups come first; an effect is run again where a dependency of it has changed. -/
def runEffects : WalletProvider :=
  let listeners :=
    if s.rendered.connectedProvider = s.effects.connectedProvider then s.listeners
    else addListener s.rendered.connectedProvider s.removeListener
  let reconnected := if s.rendered = s.effects then s else s.silentReconnect
  { reconnected with listeners := listeners, effects := s.rendered }

/-! ### What the callbacks do -/

def setBoth (detail : EIP6963ProviderDetail) (account : String) : WalletProvider :=
  { s with
    wallet := { s.wallet with connectedProvider := some detail, account := some account }
    owner := some detail }

def setNull : WalletProvider :=
  { s with
    wallet := { s.wallet with connectedProvider := none, account := none }
    lastWallet := none
    owner := none }

def choice : Option (EIP6963ProviderDetail × String) :=
  s.wallet.connectedProvider.bind fun detail => s.wallet.account.map (detail, ·)

/-- The latest action completes with the result. -/
def complete (result : Option (EIP6963ProviderDetail × String)) : WalletProvider :=
  { s with action := .completed, result := result }

def completeIf (id : ℕ) (result : Option (EIP6963ProviderDetail × String)) : WalletProvider :=
  if s.action = .pending id then s.complete result else s

/-- The result of a connect: the chosen wallet with its account, or what was chosen before. -/
def connected (request : WalletRequest) (accounts : List String) :
    Option (EIP6963ProviderDetail × String) :=
  match firstAccount accounts with
  | some account => some (request.detail, account)
  | none => s.result

/-- What follows the `await` of a request that was answered with the accounts. -/
def answered (request : WalletRequest) (accounts : List String) : WalletProvider :=
  match request.method, firstAccount accounts with
  | .eth_accounts, some account => s.setBoth request.detail account
  | .eth_accounts, none => s
  | .eth_requestAccounts, some account =>
      let connected := s.setBoth request.detail account
      { connected with
        wallet := { connected.wallet with isModalOpen := false, connecting := false }
        lastWallet := some request.detail.rdns }
  | .eth_requestAccounts, none => { s with wallet := { s.wallet with connecting := false } }

def failed (request : WalletRequest) : WalletProvider :=
  match request.method with
  | .eth_accounts => s
  | .eth_requestAccounts => { s with wallet := { s.wallet with connecting := false } }

def settle (id : ℕ) : WalletProvider :=
  { s with requests := s.requests.filter fun request => request.id ≠ id }

def take (id : ℕ) : Option WalletRequest := s.requests.find? fun request => request.id = id

/-- What an account change of this wallet makes of the result of the latest action. -/
def changeResult (detail : EIP6963ProviderDetail) (account : Option String) :
    Option (EIP6963ProviderDetail × String) :=
  match s.result with
  | some (p, a) => if p = detail then account.map (p, ·) else some (p, a)
  | none => none

def handleAccountsChanged (detail : EIP6963ProviderDetail) (accounts : List String) :
    WalletProvider :=
  match firstAccount accounts with
  | some account =>
      { s with
        wallet := { s.wallet with account := some account }
        owner := some detail
        result := s.changeResult detail (some account) }
  | none => { s.setNull with result := s.changeResult detail none }

end Steps

def step (s : WalletProvider) : Move → Option WalletProvider
  | .announceProvider detail =>
      if s.wallet.providers.any fun p => p.uuid = detail.uuid then some s
      else some { s with wallet := { s.wallet with providers := s.wallet.providers ++ [detail] } }
  | .render =>
      if s.rendered = s.effects then
        some { s with rendered := ⟨s.wallet.providers, s.wallet.connectedProvider⟩ }
      else none
  | .flush => some s.runEffects
  | .openModal => some { s with wallet := { s.wallet with isModalOpen := true } }
  | .closeModal => some { s with wallet := { s.wallet with isModalOpen := false } }
  | .connect uuid =>
      match s.rendered.providers.find? fun p => p.uuid = uuid with
      | some detail =>
          some { s with
            wallet := { s.wallet with connecting := true }
            requests := s.requests ++ [⟨s.nextId, .eth_requestAccounts, detail⟩]
            nextId := s.nextId + 1
            action := .pending s.nextId
            result := s.choice }
      | none => some (s.complete s.choice)
  | .disconnect => some (s.setNull.complete none)
  | .fulfilled id accounts =>
      (s.take id).map fun request =>
        ((s.settle id).answered request accounts).completeIf id (s.connected request accounts)
  | .rejected id =>
      (s.take id).map fun request => ((s.settle id).failed request).completeIf id s.result
  | .accountsChanged detail accounts =>
      if detail ∈ s.listeners then some (s.handleAccountsChanged detail accounts) else some s

/-! ### The user's choice -/

def Shows (s : WalletProvider) (choice : Option (EIP6963ProviderDetail × String)) : Prop :=
  s.wallet.connectedProvider = choice.map Prod.fst ∧ s.wallet.account = choice.map Prod.snd

/-- Account and provider belong together, and are the result of the latest action. -/
structure Sound (s : WalletProvider) : Prop where
  provider : s.wallet.connectedProvider = s.owner
  account : s.wallet.account.isSome = s.owner.isSome
  latest : s.action = .completed → s.Shows s.result

/-- Once the latest action has completed, no request brings another wallet or account; a
    connect that is turned down finds the choice that there was at the click; and no wallet
    but the connected one is heard, unless it has lost its accounts while nothing is connected
    or the latest action has not completed. -/
def Undisturbed (s : WalletProvider) : Move → Prop
  | .fulfilled id accounts => ∀ request, s.take id = some request →
      (s.action = .completed → ∀ account, firstAccount accounts = some account →
        s.Shows (some (request.detail, account))) ∧
      (s.action = .pending id → firstAccount accounts = none → s.Shows s.result)
  | .rejected id => ∀ request, s.take id = some request → s.action = .pending id → s.Shows s.result
  | .accountsChanged detail accounts => detail ∈ s.listeners →
      s.wallet.connectedProvider = some detail ∨
      firstAccount accounts = none ∧ (s.action = .completed → s.wallet.connectedProvider = none)
  | _ => True

/-! ### One move -/

/-- The choice is as before, and the latest action has not completed since. -/
structure SameChoice (s s' : WalletProvider) : Prop where
  provider : s'.wallet.connectedProvider = s.wallet.connectedProvider
  account : s'.wallet.account = s.wallet.account
  owner : s'.owner = s.owner
  latest : s'.action = .completed → s.action = .completed ∧ s'.result = s.result

/-- No effect is run. -/
def Keeps (s s' : WalletProvider) : Prop := s'.listeners = s.listeners ∧ s'.effects = s.effects

/-- What each move does, where it can happen. -/
inductive Stepped (s : WalletProvider) : Move → WalletProvider → Prop
  | quiet {m : Move} {s' : WalletProvider} (hm : s.Undisturbed m) (hsame : s.SameChoice s')
      (hkeeps : s.Keeps s') : Stepped s m s'
  | flushed : Stepped s .flush s.runEffects
  | notFound (uuid : String) : Stepped s (.connect uuid) (s.complete s.choice)
  | disconnected : Stepped s .disconnect (s.setNull.complete none)
  | fulfilled {request : WalletRequest} (id : ℕ) (accounts : List String)
      (htake : s.take id = some request) : Stepped s (.fulfilled id accounts)
      (((s.settle id).answered request accounts).completeIf id (s.connected request accounts))
  | rejected {request : WalletRequest} (id : ℕ) (htake : s.take id = some request) :
      Stepped s (.rejected id) (((s.settle id).failed request).completeIf id s.result)
  | heard {detail : EIP6963ProviderDetail} (accounts : List String) (hheard : detail ∈ s.listeners) :
      Stepped s (.accountsChanged detail accounts) (s.handleAccountsChanged detail accounts)

theorem stepped {s s' : WalletProvider} {m : Move} (h : step s m = some s') : Stepped s m s' := by
  cases m with
  | announceProvider detail =>
    simp only [step] at h
    split at h
    · obtain rfl := Option.some.inj h
      exact .quiet trivial ⟨rfl, rfl, rfl, (⟨·, rfl⟩)⟩ ⟨rfl, rfl⟩
    · obtain rfl := Option.some.inj h
      exact .quiet trivial ⟨rfl, rfl, rfl, (⟨·, rfl⟩)⟩ ⟨rfl, rfl⟩
  | render =>
    obtain ⟨-, h⟩ := Option.ite_none_right_eq_some.mp h
    obtain rfl := Option.some.inj h
    exact .quiet trivial ⟨rfl, rfl, rfl, (⟨·, rfl⟩)⟩ ⟨rfl, rfl⟩
  | flush =>
    obtain rfl := Option.some.inj h
    exact .flushed
  | openModal =>
    obtain rfl := Option.some.inj h
    exact .quiet trivial ⟨rfl, rfl, rfl, (⟨·, rfl⟩)⟩ ⟨rfl, rfl⟩
  | closeModal =>
    obtain rfl := Option.some.inj h
    exact .quiet trivial ⟨rfl, rfl, rfl, (⟨·, rfl⟩)⟩ ⟨rfl, rfl⟩
  | connect uuid =>
    simp only [step] at h
    split at h
    · obtain rfl := Option.some.inj h
      exact .quiet trivial ⟨rfl, rfl, rfl, nofun⟩ ⟨rfl, rfl⟩
    · obtain rfl := Option.some.inj h
      exact .notFound uuid
  | disconnect =>
    obtain rfl := Option.some.inj h
    exact .disconnected
  | fulfilled i accounts =>
    obtain ⟨request, htake, rfl⟩ := Option.map_eq_some_iff.mp h
    exact .fulfilled i accounts htake
  | rejected i =>
    obtain ⟨request, htake, rfl⟩ := Option.map_eq_some_iff.mp h
    exact .rejected i htake
  | accountsChanged detail accounts =>
    simp only [step] at h
    split at h
    · next hheard =>
      obtain rfl := Option.some.inj h
      exact .heard accounts hheard
    · next hdeaf =>
      obtain rfl := Option.some.inj h
      exact .quiet (fun hheard => absurd hheard hdeaf) ⟨rfl, rfl, rfl, (⟨·, rfl⟩)⟩ ⟨rfl, rfl⟩

/-! ### Which moves leave the choice sound -/

section Sound

variable {s s' : WalletProvider} {m : Move} {i : ℕ} {request : WalletRequest}
  {detail : EIP6963ProviderDetail} {account : String} {accounts : List String}

theorem Sound.of_same (h : s.Sound) (hsame : s.SameChoice s') : s'.Sound := by
  refine ⟨?_, ?_, ?_⟩
  · rw [hsame.provider, hsame.owner]
    exact h.provider
  · rw [hsame.account, hsame.owner]
    exact h.account
  · intro hcompleted
    obtain ⟨hbefore, hresult⟩ := hsame.latest hcompleted
    rw [Shows, hsame.provider, hsame.account, hresult]
    exact h.latest hbefore

theorem Sound.shows_choice (h : s.Sound) : s.Shows s.choice := by
  have haccount := h.account
  rw [← h.provider] at haccount
  cases hp : s.wallet.connectedProvider with
  | none =>
    rw [hp] at haccount
    have hnone : s.wallet.account = none := Option.not_isSome_iff_eq_none.mp (by simp [haccount])
    simp [Shows, choice, hp, hnone]
  | some detail =>
    rw [hp] at haccount
    obtain ⟨account, ha⟩ := Option.isSome_iff_exists.mp haccount
    simp [Shows, choice, hp, ha]

/-- An action completes soundly where the state is its result. -/
theorem Sound.complete_iff (h : s.Sound) {result : Option (EIP6963ProviderDetail × String)} :
    (s.complete result).Sound ↔ s.Shows result := by
  constructor
  · intro h'
    exact h'.latest rfl
  · intro hshows
    exact ⟨h.provider, h.account, fun _ => hshows⟩

theorem completeIf_of_pending {result : Option (EIP6963ProviderDetail × String)}
    (h : s.action = .pending i) : s.completeIf i result = s.complete result := if_pos h

theorem completeIf_of_ne {result : Option (EIP6963ProviderDetail × String)}
    (h : s.action ≠ .pending i) : s.completeIf i result = s := if_neg h

theorem sameChoice_runEffects : s.SameChoice s.runEffects := by
  unfold runEffects silentReconnect
  dsimp only
  split
  · exact ⟨rfl, rfl, rfl, (⟨·, rfl⟩)⟩
  · split
    · split
      · exact ⟨rfl, rfl, rfl, (⟨·, rfl⟩)⟩
      · exact ⟨rfl, rfl, rfl, (⟨·, rfl⟩)⟩
    · exact ⟨rfl, rfl, rfl, (⟨·, rfl⟩)⟩

theorem sound_setBoth_iff (h : s.Sound) : (s.setBoth detail account).Sound ↔
    (s.action = .completed → s.Shows (some (detail, account))) := by
  constructor
  · intro h' hcompleted
    obtain ⟨hdetail, haccount⟩ := h'.latest hcompleted
    have hlatest := h.latest hcompleted
    exact ⟨hlatest.1.trans hdetail.symm, hlatest.2.trans haccount.symm⟩
  · intro hsame
    refine ⟨rfl, rfl, fun hcompleted => ?_⟩
    obtain ⟨hdetail, haccount⟩ := hsame hcompleted
    have hlatest := h.latest hcompleted
    exact ⟨hdetail.symm.trans hlatest.1, haccount.symm.trans hlatest.2⟩

theorem answered_action : (s.answered request accounts).action = s.action := by
  unfold answered
  split
  · rfl
  · rfl
  · rfl
  · rfl

theorem answered_of_none (h : s.Sound) (hnone : firstAccount accounts = none) :
    (s.answered request accounts).Sound := by
  unfold answered
  rw [hnone]
  cases request.method with
  | eth_accounts => exact h
  | eth_requestAccounts => exact h.of_same ⟨rfl, rfl, rfl, (⟨·, rfl⟩)⟩

theorem answered_of_some (hsome : firstAccount accounts = some account) :
    (s.answered request accounts).Sound ↔ (s.setBoth request.detail account).Sound := by
  unfold answered
  rw [hsome]
  cases request.method with
  | eth_accounts => rfl
  | eth_requestAccounts =>
    constructor
    · intro h
      exact h.of_same ⟨rfl, rfl, rfl, (⟨·, rfl⟩)⟩
    · intro h
      exact h.of_same ⟨rfl, rfl, rfl, (⟨·, rfl⟩)⟩

theorem answered_sound_iff (h : s.Sound) : (s.answered request accounts).Sound ↔
    (s.action = .completed → ∀ account, firstAccount accounts = some account →
      s.Shows (some (request.detail, account))) := by
  cases hfirst : firstAccount accounts with
  | none => exact iff_of_true (answered_of_none h hfirst) nofun
  | some account =>
    rw [answered_of_some hfirst, sound_setBoth_iff h]
    constructor
    · intro hsame hcompleted account' heq
      obtain rfl := Option.some.inj heq
      exact hsame hcompleted
    · intro hsame hcompleted
      exact hsame hcompleted account rfl

theorem Sound.settle (h : s.Sound) : (s.settle i).Sound := h.of_same ⟨rfl, rfl, rfl, (⟨·, rfl⟩)⟩

/-- After the answer the state is the result, where an account came; otherwise it is what it
    was. -/
theorem answered_shows_iff {t : WalletProvider} :
    (t.answered request accounts).Shows (s.connected request accounts) ↔
      (firstAccount accounts = none → t.Shows s.result) := by
  unfold answered connected
  cases hfirst : firstAccount accounts with
  | none =>
    rw [imp_iff_right rfl]
    cases request.method with
    | eth_accounts => exact Iff.rfl
    | eth_requestAccounts => exact Iff.rfl
  | some account =>
    refine iff_of_true ?_ nofun
    cases request.method with
    | eth_accounts => exact ⟨rfl, rfl⟩
    | eth_requestAccounts => exact ⟨rfl, rfl⟩

theorem fulfilled_sound_iff (h : s.Sound) (htake : s.take i = some request) :
    (((s.settle i).answered request accounts).completeIf i (s.connected request accounts)).Sound ↔
      s.Undisturbed (.fulfilled i accounts) := by
  have hanswered : ((s.settle i).answered request accounts).action = s.action := answered_action
  have hundisturbed : s.Undisturbed (.fulfilled i accounts) ↔
      (s.action = .completed → ∀ account, firstAccount accounts = some account →
        s.Shows (some (request.detail, account))) ∧
      (s.action = .pending i → firstAccount accounts = none → s.Shows s.result) := by
    simp only [Undisturbed, htake, Option.some.injEq, forall_eq']
  rw [hundisturbed]
  by_cases hpending : s.action = .pending i
  · -- the latest action completes
    have hnot : s.action ≠ .completed := by simp [hpending]
    have hsound : ((s.settle i).answered request accounts).Sound :=
      (answered_sound_iff h.settle).mpr fun hcompleted => absurd hcompleted hnot
    rw [completeIf_of_pending (hanswered.trans hpending), hsound.complete_iff, answered_shows_iff,
      and_iff_right fun hcompleted => absurd hcompleted hnot, imp_iff_right hpending]
    rfl
  · rw [completeIf_of_ne (hanswered.symm ▸ hpending), answered_sound_iff h.settle,
      and_iff_left fun hthis => absurd hthis hpending]
    rfl

theorem Sound.failed (h : s.Sound) : (s.failed request).Sound := by
  unfold WalletProvider.failed
  cases request.method with
  | eth_accounts => exact h
  | eth_requestAccounts => exact h.of_same ⟨rfl, rfl, rfl, (⟨·, rfl⟩)⟩

theorem rejected_sound_iff (h : s.Sound) (htake : s.take i = some request) :
    (((s.settle i).failed request).completeIf i s.result).Sound ↔ s.Undisturbed (.rejected i) := by
  have hundisturbed : s.Undisturbed (.rejected i) ↔ (s.action = .pending i → s.Shows s.result) := by
    simp only [Undisturbed, htake, Option.some.injEq, forall_eq']
  have hsound : ((s.settle i).failed request).Sound := h.settle.failed
  have hfailed : ((s.settle i).failed request).action = s.action ∧
      (((s.settle i).failed request).Shows s.result ↔ s.Shows s.result) := by
    unfold failed
    cases request.method with
    | eth_accounts => exact ⟨rfl, Iff.rfl⟩
    | eth_requestAccounts => exact ⟨rfl, Iff.rfl⟩
  rw [hundisturbed]
  by_cases hpending : s.action = .pending i
  · rw [completeIf_of_pending (hfailed.1.trans hpending), hsound.complete_iff, hfailed.2,
      imp_iff_right hpending]
  · rw [completeIf_of_ne (hfailed.1.symm ▸ hpending)]
    exact iff_of_true hsound fun hthis => absurd hthis hpending

/-- The handler sets the account alone: it is that of the connected wallet only where the
    event was. -/
theorem accountChanged_sound_iff (h : s.Sound) (hsome : firstAccount accounts = some account) :
    (s.handleAccountsChanged detail accounts).Sound ↔ s.wallet.connectedProvider = some detail := by
  unfold handleAccountsChanged
  rw [hsome]
  constructor
  · intro h'
    exact h'.provider
  · intro hdetail
    refine ⟨hdetail, rfl, fun hcompleted => ?_⟩
    have hlatest := (h.latest hcompleted).1
    rw [hdetail] at hlatest
    obtain ⟨result, hresult, hfst⟩ := Option.map_eq_some_iff.mp hlatest.symm
    simp [Shows, changeResult, hresult, hfst, hdetail]

theorem accountGone_sound_iff (h : s.Sound) (hnone : firstAccount accounts = none) :
    (s.handleAccountsChanged detail accounts).Sound ↔ s.wallet.connectedProvider = some detail ∨
      (s.action = .completed → s.wallet.connectedProvider = none) := by
  unfold handleAccountsChanged
  rw [hnone]
  have hsound : Sound { s.setNull with result := s.changeResult detail none } ↔
      (s.action = .completed → s.changeResult detail none = none) := by
    constructor
    · intro h' hcompleted
      exact Option.map_eq_none_iff.mp (h'.latest hcompleted).1.symm
    · intro hchange
      refine ⟨rfl, rfl, fun hcompleted => ?_⟩
      simp [Shows, setNull, hchange hcompleted]
  rw [hsound]
  by_cases hcompleted : s.action = .completed
  · have hlatest := (h.latest hcompleted).1
    simp only [hcompleted, true_imp_iff, hlatest]
    cases hresult : s.result with
    | none => simp [changeResult, hresult]
    | some result => by_cases heq : result.1 = detail <;> simp [changeResult, hresult, heq]
  · exact iff_of_true (fun h => absurd h hcompleted) (.inr fun h => absurd h hcompleted)

theorem heard_sound_iff (h : s.Sound) (hheard : detail ∈ s.listeners) :
    (s.handleAccountsChanged detail accounts).Sound ↔
      s.Undisturbed (.accountsChanged detail accounts) := by
  simp only [Undisturbed, imp_iff_right hheard]
  cases hfirst : firstAccount accounts with
  | none => simpa using accountGone_sound_iff h hfirst
  | some account => simpa using accountChanged_sound_iff h hfirst

theorem step_sound_iff (h : s.Sound) (hstep : Stepped s m s') : s'.Sound ↔ s.Undisturbed m := by
  cases hstep with
  | quiet hm hsame => exact iff_of_true (h.of_same hsame) hm
  | flushed => exact iff_of_true (h.of_same sameChoice_runEffects) trivial
  | notFound => exact iff_of_true (h.complete_iff.mpr h.shows_choice) trivial
  | disconnected => exact iff_of_true ⟨rfl, rfl, fun _ => ⟨rfl, rfl⟩⟩ trivial
  | fulfilled i accounts htake => exact fulfilled_sound_iff h htake
  | rejected i htake => exact rejected_sound_iff h htake
  | heard accounts hheard => exact heard_sound_iff h hheard

/-- A move that may disturb can happen. -/
theorem step_isSome_of_not_undisturbed (h : ¬ s.Undisturbed m) : ∃ s', step s m = some s' := by
  cases m with
  | fulfilled id accounts =>
    simp only [Undisturbed, not_forall] at h
    obtain ⟨request, htake, -⟩ := h
    simp [step, htake]
  | rejected id =>
    simp only [Undisturbed, not_forall] at h
    obtain ⟨request, htake, -⟩ := h
    simp [step, htake]
  | accountsChanged detail accounts =>
    simp only [Undisturbed, not_forall] at h
    obtain ⟨hheard, -⟩ := h
    exact ⟨_, if_pos hheard⟩
  | _ => exact absurd trivial h

end Sound

/-- **When the wallet that the user chose is the one that pays.**  For every order of
    announcements, connects, disconnects, answers and account changes: account and provider
    belong together all along, and are the result of the latest action once it has completed,
    exactly where no answer then brings another wallet or account, no connect is turned down
    after another request has replaced the choice, and no event of another wallet is heard. -/
theorem last_choice_iff (lastWallet : Option String) (ms : List Move) :
    (∀ ms₁ ms₂ s, ms = ms₁ ++ ms₂ → run step (start lastWallet) ms₁ = some s → s.Sound) ↔
      AllMoves step Undisturbed (start lastWallet) ms := by
  have hstart : (start lastWallet).Sound := ⟨rfl, rfl, nofun⟩
  refine always_good_iff (I := fun _ => True) (fun _ _ => trivial) ?_ ?_ trivial hstart
  · intro s m s' _ h hundisturbed hstep
    exact (step_sound_iff h (stepped hstep)).mpr hundisturbed
  · intro s m _ h hdisturbed
    obtain ⟨s', hstep⟩ := step_isSome_of_not_undisturbed hdisturbed
    exact ⟨s', hstep, fun hsound => hdisturbed ((step_sound_iff h (stepped hstep)).mp hsound)⟩

/-! ### The wallets that are heard -/

section Listening

variable {s s' : WalletProvider} {m : Move} {detail : EIP6963ProviderDetail}

/-- Of the wallets that can be left, the one that the effects ran with last is listened to. -/
def Listening (s : WalletProvider) : Prop :=
  s.listeners.filter EIP6963ProviderDetail.removeListener =
    (s.effects.connectedProvider.filter fun detail => detail.on && detail.removeListener).toList

theorem Listening.removeListener (h : s.Listening) :
    s.removeListener.filter EIP6963ProviderDetail.removeListener = [] := by
  unfold Listening at h
  unfold WalletProvider.removeListener
  cases hprovider : s.effects.connectedProvider with
  | none => simpa [hprovider] using h
  | some detail =>
    rw [hprovider] at h
    by_cases hleft : detail.on ∧ detail.removeListener
    · simp only [if_pos hleft]
      rw [← List.erase_filter, h]
      simp [Option.filter, hleft]
    · simp only [if_neg hleft]
      simpa [Option.filter, hleft] using h

theorem filter_addListener (detail : Option EIP6963ProviderDetail)
    (listeners : List EIP6963ProviderDetail) :
    (addListener detail listeners).filter EIP6963ProviderDetail.removeListener =
      listeners.filter EIP6963ProviderDetail.removeListener ++
        (detail.filter fun detail => detail.on && detail.removeListener).toList := by
  rw [addListener, List.filter_append]
  congr 1
  cases detail with
  | none => rfl
  | some detail =>
    cases hon : detail.on with
    | false => simp [Option.filter, hon]
    | true => cases hleft : detail.removeListener <;> simp [Option.filter, hon, hleft]

theorem Listening.runEffects (h : s.Listening) : s.runEffects.Listening := by
  unfold Listening WalletProvider.runEffects
  dsimp only
  split
  · next hsame =>
    rw [hsame]
    exact h
  · rw [filter_addListener, h.removeListener, List.nil_append]

theorem Listening.of_keeps (h : s.Listening) (hkeeps : s.Keeps s') : s'.Listening := by
  unfold Listening
  rw [hkeeps.1, hkeeps.2]
  exact h

theorem keeps_answered {request : WalletRequest} {accounts : List String} :
    s.Keeps (s.answered request accounts) := by
  unfold answered
  split
  · exact ⟨rfl, rfl⟩
  · exact ⟨rfl, rfl⟩
  · exact ⟨rfl, rfl⟩
  · exact ⟨rfl, rfl⟩

theorem keeps_failed {request : WalletRequest} : s.Keeps (s.failed request) := by
  unfold failed
  cases request.method with
  | eth_accounts => exact ⟨rfl, rfl⟩
  | eth_requestAccounts => exact ⟨rfl, rfl⟩

theorem keeps_completeIf {id : ℕ} {result : Option (EIP6963ProviderDetail × String)} :
    s.Keeps (s.completeIf id result) := by
  unfold completeIf
  split
  · exact ⟨rfl, rfl⟩
  · exact ⟨rfl, rfl⟩

theorem keeps_handleAccountsChanged {accounts : List String} :
    s.Keeps (s.handleAccountsChanged detail accounts) := by
  unfold handleAccountsChanged
  split
  · exact ⟨rfl, rfl⟩
  · exact ⟨rfl, rfl⟩

theorem Keeps.trans {s₁ : WalletProvider} (h : s.Keeps s₁) (h' : s₁.Keeps s') : s.Keeps s' :=
  ⟨h'.1.trans h.1, h'.2.trans h.2⟩

theorem Listening.step (h : s.Listening) (hstep : Stepped s m s') : s'.Listening := by
  have hsettle (i : ℕ) : s.Keeps (s.settle i) := ⟨rfl, rfl⟩
  cases hstep with
  | quiet hm hsame hkeeps => exact h.of_keeps hkeeps
  | flushed => exact h.runEffects
  | notFound => exact h
  | disconnected => exact h
  | fulfilled i => exact h.of_keeps (((hsettle i).trans keeps_answered).trans keeps_completeIf)
  | rejected i => exact h.of_keeps (((hsettle i).trans keeps_failed).trans keeps_completeIf)
  | heard => exact h.of_keeps keeps_handleAccountsChanged

/-- Once the effects have followed the state, no wallet that can be left is heard but the
    connected one. -/
theorem undisturbed_of_flushed {lastWallet : Option String} {ms : List Move}
    (hrun : run step (start lastWallet) ms = some s)
    (hflushed : s.effects.connectedProvider = s.wallet.connectedProvider)
    (hleft : detail.removeListener = true) (accounts : List String) :
    s.Undisturbed (.accountsChanged detail accounts) := by
  intro hheard
  refine .inl ?_
  have hlistening : s.Listening := run_keeps (fun h hstep => h.step (stepped hstep)) hrun rfl
  have hmem : detail ∈ s.listeners.filter EIP6963ProviderDetail.removeListener :=
    List.mem_filter.mpr ⟨hheard, hleft⟩
  rw [hlistening, Option.mem_toList, hflushed] at hmem
  exact (Option.filter_eq_some_iff.mp hmem).1

end Listening

/-! ### A late reconnect, and a wallet that was left -/

def Sample.metaMask : EIP6963ProviderDetail := ⟨"7b1e", "io.metamask", true, true⟩

def Sample.phantom : EIP6963ProviderDetail := ⟨"c4a0", "app.phantom", true, true⟩

/-- Both wallets announce themselves, and the effects find the wallet of the last visit: its
    request is the first. -/
def Sample.announced : List Move :=
  [.announceProvider Sample.phantom, .announceProvider Sample.metaMask, .render, .flush]

/-- The user connects MetaMask before Phantom answers the silent reconnect. -/
def Sample.lateReconnect : List Move :=
  Sample.announced ++ [.connect "7b1e", .fulfilled 1 ["0x0b"], .render, .flush, .fulfilled 0 ["0x0a"]]

/-- The user connects MetaMask after Phantom, which changes its account before the effects
    have run. -/
def Sample.leftWallet : List Move :=
  Sample.announced ++ [.fulfilled 0 ["0x0a"], .render, .flush, .connect "7b1e",
    .fulfilled 1 ["0x0b"], .accountsChanged Sample.phantom ["0x0c"]]

/-- Phantom answers the silent reconnect while the user is asked by MetaMask, and the user
    turns MetaMask down. -/
def Sample.rejectedChoice : List Move :=
  Sample.announced ++ [.connect "7b1e", .fulfilled 0 ["0x0a"], .rejected 1]

theorem Sample.run_lateReconnect : ∃ s,
    run step (start (some "app.phantom")) Sample.lateReconnect = some s ∧ s.action = .completed ∧
    s.result = some (Sample.metaMask, "0x0b") ∧ s.wallet.connectedProvider = some Sample.phantom :=
  exists_run (by decide +kernel)

theorem Sample.run_leftWallet : ∃ s,
    run step (start (some "app.phantom")) Sample.leftWallet = some s ∧
    s.wallet.connectedProvider = some Sample.metaMask ∧ s.owner = some Sample.phantom :=
  exists_run (by decide +kernel)

theorem Sample.run_rejectedChoice : ∃ s,
    run step (start (some "app.phantom")) Sample.rejectedChoice = some s ∧ s.action = .completed ∧
    s.result = none ∧ s.wallet.connectedProvider = some Sample.phantom :=
  exists_run (by decide +kernel)

/-- The silent reconnect replaces the wallet that the user has connected since; it is what is
    left of a connect that was turned down; and an account of the wallet that was left is shown
    with the one that was chosen. -/
theorem reconnect_replaces_choice :
    (∃ s, run step (start (some "app.phantom")) Sample.lateReconnect = some s ∧
      ¬ (s.action = .completed → s.Shows s.result)) ∧
    (∃ s, run step (start (some "app.phantom")) Sample.rejectedChoice = some s ∧
      ¬ (s.action = .completed → s.Shows s.result)) ∧
    ∃ s, run step (start (some "app.phantom")) Sample.leftWallet = some s ∧
      s.wallet.connectedProvider ≠ s.owner := by
  refine ⟨?_, ?_, ?_⟩
  · obtain ⟨s, hrun, haction, hresult, hprovider⟩ := Sample.run_lateReconnect
    refine ⟨s, hrun, fun hlatest => ?_⟩
    have hsame := (hlatest haction).1
    rw [hresult, hprovider] at hsame
    exact absurd hsame (by decide)
  · obtain ⟨s, hrun, haction, hresult, hprovider⟩ := Sample.run_rejectedChoice
    refine ⟨s, hrun, fun hlatest => ?_⟩
    have hsame := (hlatest haction).1
    rw [hresult, hprovider] at hsame
    cases hsame
  · obtain ⟨s, hrun, hprovider, howner⟩ := Sample.run_leftWallet
    refine ⟨s, hrun, ?_⟩
    rw [hprovider, howner]
    decide

end WalletProvider

end DVoD.Web
