import DVoD.MacClient.AppDelegate

/-!
# The connection history

`ConnectionHistoryStore.swift` with its file.  An instance loads the file before it
terminates the one that runs, writes its entries whenever it opens or closes one, and
ignores writes that fail.  `history_iff` says when the history tells what happened: what
the file has, every connection that is over closed, and the current one on top.
-/

namespace DVoD.MacClient

open DVoD.Machine

/-! ### `ConnectionHistoryStore.swift` -/

/-- `save`; an atomic write leaves the file as it was where it fails. -/
def save (written : Bool) (entries file : List ConnectionHistoryEntry) : List ConnectionHistoryEntry :=
  if written then entries else file

/-- `recordDisconnect` finds an entry to close. -/
def hasEntry (entries : List ConnectionHistoryEntry) (id : UUID) : Bool :=
  entries.any fun entry => entry.id = id

namespace AppDelegate

/-- `connect` comes to the end. -/
def Surroundings.connects (s : Surroundings) : Bool :=
  s.listens && (SystemProxy.activeServiceName s.characterData s.networkSetup).isSome

/-- The file after `disconnect`. -/
def disconnectFile (closed : Bool) (now : ℕ) (app : AppDelegate) (file : List ConnectionHistoryEntry) :
    List ConnectionHistoryEntry :=
  match app.historyEntryId with
  | some id => if hasEntry app.entries id then save closed (recordDisconnect app.entries id now) file else file
  | none => file

/-- The file after `connect`. -/
def connectFile (closed opened : Bool) (s : Surroundings) (request : ConnectRequest) (app : AppDelegate)
    (network : Network) (file : List ConnectionHistoryEntry) : List ConnectionHistoryEntry :=
  let file := app.disconnectFile closed s.now file
  if s.connects then save opened (app.connect s request network).1.entries file else file

end AppDelegate

/-! ### The machine with the file -/

/-- `file` is what `load` makes of the file: nothing where there is none, or where it is
    not a history.  `loaded` is what an instance has loaded that has yet to take over. -/
structure Desktop where
  mac : Mac
  file : List ConnectionHistoryEntry
  loaded : Option (List ConnectionHistoryEntry) := none

namespace Desktop

open AppDelegate

/-- With each move that saves, whether the writes go through: the one of `recordDisconnect`,
    and the one of `recordConnect`. -/
inductive Move where
  | load
  /-- The instance that has loaded takes over. -/
  | launch (now : ℕ)
  | handleGetURLEvent (components : Option URLComponents) (s : Surroundings) (closed opened : Bool)
  | disconnect (now : ℕ) (closed : Bool)
  | quit (now : ℕ) (closed : Bool)

def step (d : Desktop) : Move → Option Desktop
  | .load => if d.loaded.isSome then none else some { d with loaded := some d.file }
  | .launch now => d.loaded.bind fun entries =>
      (d.mac.step (.launch now entries)).map fun mac => { d with mac := mac, loaded := none }
  | .handleGetURLEvent components s closed opened => d.mac.running.bind fun app =>
      (d.mac.step (.handleGetURLEvent components s)).map fun mac =>
        { d with
          mac := mac
          file := match parseConnectURL components with
            | none => d.file
            | some request => app.connectFile closed opened s request d.mac.network d.file }
  | .disconnect now closed => d.mac.running.bind fun app =>
      (d.mac.step (.disconnect now)).map fun mac =>
        { d with mac := mac, file := app.disconnectFile closed now d.file }
  | .quit now closed => d.mac.running.bind fun app =>
      (d.mac.step (.quit now)).map fun mac =>
        { d with mac := mac, file := app.disconnectFile closed now d.file }

/-! ### What the history should say -/

/-- The current connection is on top and open, and all others are closed. -/
structure Settled (entries : List ConnectionHistoryEntry) (current : Option UUID) : Prop where
  nodup : (entries.map ConnectionHistoryEntry.id).Nodup
  top : ∀ id, current = some id → ∃ entry rest, entries = entry :: rest ∧ entry.id = id ∧
    entry.disconnectedAt = none
  closed : ∀ entry ∈ entries, entry.disconnectedAt = none → current = some entry.id

/-- What is in memory is in the file, and settled. -/
structure Good (d : Desktop) : Prop where
  loaded : ∀ entries, d.loaded = some entries → entries = d.file
  running : ∀ app, d.mac.running = some app → app.entries = d.file ∧ Settled d.file app.historyEntryId
  stopped : d.mac.running = none → Settled d.file none

/-- The history is changed while no other instance has loaded it, and the change is written. -/
def Written (d : Desktop) (written : Bool) : Prop := d.loaded = none ∧ written = true

/-- No connected instance is replaced, and every change of the history is written, in the
    end, while no other instance has loaded it. -/
def Clean (d : Desktop) : Move → Prop
  | .load => True
  | .launch _ => ∀ app, d.loaded ≠ none → d.mac.running = some app → app.historyEntryId = none
  | .handleGetURLEvent components s closed opened => ∀ app, d.mac.running = some app →
      parseConnectURL components ≠ none →
        if s.connects then d.Written opened else app.historyEntryId ≠ none → d.Written closed
  | .disconnect _ closed | .quit _ closed => ∀ app, d.mac.running = some app →
      app.historyEntryId ≠ none → d.Written closed

/-- A new `UUID` is new. -/
def Fresh (d : Desktop) : Move → Prop
  | .handleGetURLEvent _ s _ _ => s.uuid ∉ d.file.map ConnectionHistoryEntry.id
  | _ => True

/-! ### Opening and closing entries -/

section Entries

variable {entries file : List ConnectionHistoryEntry} {id : UUID} {now : ℕ} {relay tier : String}
  {current : Option UUID}

theorem Settled.recordConnect (h : Settled entries none) (hid : id ∉ entries.map ConnectionHistoryEntry.id) :
    Settled (recordConnect entries id relay tier now) (some id) where
  nodup := List.nodup_cons.mpr ⟨hid, h.nodup⟩
  top id' hid' := ⟨_, entries, rfl, Option.some.inj hid', rfl⟩
  closed entry hentry hopen := by
    rcases List.mem_cons.mp hentry with rfl | hentry
    · rfl
    · cases h.closed entry hentry hopen

/-- Closing the current connection closes the entry on top. -/
theorem Settled.recordDisconnect (h : Settled entries (some id)) (now : ℕ) :
    hasEntry entries id = true ∧ ∃ entry rest, entries = entry :: rest ∧ entry.disconnectedAt = none ∧
      recordDisconnect entries id now = { entry with disconnectedAt := some now } :: rest ∧
      Settled (recordDisconnect entries id now) none := by
  obtain ⟨entry, rest, rfl, rfl, hopen⟩ := h.top id rfl
  obtain ⟨hnot, hnodup⟩ := List.nodup_cons.mp h.nodup
  have hclosed : MacClient.recordDisconnect (entry :: rest) entry.id now =
      { entry with disconnectedAt := some now } :: rest := if_pos rfl
  refine ⟨by simp [hasEntry], entry, rest, rfl, hopen, hclosed, ?_⟩
  rw [hclosed]
  constructor
  · exact List.nodup_cons.mpr ⟨hnot, hnodup⟩
  · intro id' hid'
    cases hid'
  · intro entry' hentry' hopen'
    rcases List.mem_cons.mp hentry' with rfl | hentry'
    · cases hopen'
    · have hid := Option.some.inj (h.closed entry' (List.mem_cons_of_mem _ hentry') hopen')
      exact absurd (List.mem_map_of_mem hentry') (hid ▸ hnot)

theorem map_id_recordDisconnect : (MacClient.recordDisconnect entries id now).map ConnectionHistoryEntry.id =
    entries.map ConnectionHistoryEntry.id := by
  induction entries with
  | nil => rfl
  | cons entry rest ih =>
    rw [MacClient.recordDisconnect]
    split
    · rfl
    · rw [List.map_cons, List.map_cons, ih]

end Entries

/-! ### What the app does to its entries -/

section App

variable {app : AppDelegate} {network : Network} {s : Surroundings} {request : ConnectRequest}
  {file : List ConnectionHistoryEntry} {now : ℕ} {closed opened : Bool}

theorem entries_disconnect : (app.disconnect now network).1.entries =
    (app.historyEntryId.map fun id => recordDisconnect app.entries id now).getD app.entries := rfl

variable (network now) in
theorem settled_disconnect (h : Settled app.entries app.historyEntryId) :
    Settled (app.disconnect now network).1.entries none := by
  rw [entries_disconnect]
  cases hid : app.historyEntryId with
  | none =>
    rw [hid] at h
    exact h
  | some id =>
    rw [hid] at h
    obtain ⟨-, -, -, -, -, -, hsettled⟩ := h.recordDisconnect now
    exact hsettled

variable (app network request) in
/-- `connect` that does not come to the end leaves the history as `disconnect` does. -/
theorem entries_connect_of_not_connects (h : s.connects = false) :
    (app.connect s request network).1.entries = (app.disconnect s.now network).1.entries ∧
      (app.connect s request network).1.historyEntryId = none := by
  cases hlistens : s.listens with
  | false =>
    rw [Mac.connect_of_not_listens hlistens]
    exact ⟨rfl, rfl⟩
  | true =>
    have hservice : SystemProxy.activeServiceName s.characterData s.networkSetup = none := by
      rw [Surroundings.connects, hlistens, Bool.true_and, Option.isSome_eq_false_iff, Option.isNone_iff_eq_none] at h
      exact h
    rw [Mac.connect_of_no_service hlistens hservice]
    exact ⟨rfl, rfl⟩

variable (app network request) in
theorem entries_connect_of_connects (h : s.connects = true) :
    (∃ relay tier, (app.connect s request network).1.entries =
      recordConnect (app.disconnect s.now network).1.entries s.uuid relay tier s.now) ∧
      (app.connect s request network).1.historyEntryId = some s.uuid := by
  rw [Surroundings.connects, Bool.and_eq_true] at h
  obtain ⟨service, hservice⟩ := Option.isSome_iff_exists.mp h.2
  simp only [AppDelegate.connect, h.1, hservice, Bool.not_true, Bool.false_eq_true, if_false]
  exact ⟨⟨_, _, rfl⟩, trivial⟩

theorem map_id_disconnect : (app.disconnect now network).1.entries.map ConnectionHistoryEntry.id =
    app.entries.map ConnectionHistoryEntry.id := by
  rw [entries_disconnect]
  cases app.historyEntryId with
  | none => rfl
  | some id => exact map_id_recordDisconnect

variable (network) in
/-- What `disconnect` writes, if it writes anything. -/
theorem disconnectFile_eq (h : Settled app.entries app.historyEntryId) (hfile : app.entries = file) :
    app.disconnectFile closed now file =
      if closed then (app.disconnect now network).1.entries else file := by
  rw [entries_disconnect]
  cases hid : app.historyEntryId with
  | none =>
    simp only [disconnectFile, hid, Option.map_none, Option.getD_none, hfile, ite_self]
  | some id =>
    rw [hid] at h
    have hhas := (h.recordDisconnect now).1
    simp only [disconnectFile, hid, hhas, if_true, save, Option.map_some, Option.getD_some]

end App

/-! ### One move -/

section Moves

variable {d d' : Desktop} {m : Move} {app : AppDelegate}

theorem Good.settled (h : Good d) (happ : d.mac.running = some app) :
    app.entries = d.file ∧ Settled app.entries app.historyEntryId := by
  obtain ⟨hfile, hsettled⟩ := h.running app happ
  exact ⟨hfile, hfile ▸ hsettled⟩

/-- A change that is written while nobody has loaded the file. -/
theorem good_of_written {mac : Mac} {entries : List ConnectionHistoryEntry}
    (hrunning : ∀ app, mac.running = some app → app.entries = entries ∧ Settled entries app.historyEntryId)
    (hstopped : mac.running = none → Settled entries none) : Good ⟨mac, entries, none⟩ :=
  ⟨nofun, hrunning, hstopped⟩

/-- `disconnect` and `quit`: what they leave, where the file has it. -/
theorem Good.disconnect (h : Good d) (happ : d.mac.running = some app) (now : ℕ) {closed : Bool}
    (hclean : app.historyEntryId ≠ none → d.Written closed) :
    (app.disconnect now d.mac.network).1.entries = app.disconnectFile closed now d.file ∧
      Settled (app.disconnectFile closed now d.file) none ∧
      ∀ entries, d.loaded = some entries → entries = app.disconnectFile closed now d.file := by
  obtain ⟨hfile, hsettled⟩ := h.settled happ
  have hdisconnect := settled_disconnect d.mac.network now hsettled
  by_cases hid : app.historyEntryId = none
  · have hsame : app.disconnectFile closed now d.file = d.file := by
      simp only [disconnectFile, hid]
    have hentries : (app.disconnect now d.mac.network).1.entries = d.file := by
      rw [entries_disconnect, hid]
      exact hfile
    rw [hentries] at hdisconnect
    rw [hsame]
    exact ⟨hentries, hdisconnect, h.loaded⟩
  · obtain ⟨hloaded, hclosed⟩ := hclean hid
    rw [disconnectFile_eq d.mac.network hsettled hfile, hclosed, if_pos rfl]
    refine ⟨rfl, hdisconnect, ?_⟩
    intro entries hentries
    rw [hloaded] at hentries
    cases hentries

variable {s : Surroundings} {request : ConnectRequest} {closed opened : Bool}

variable (request) in
/-- `connect` that comes to the end: the new connection is on top. -/
theorem Good.connect (h : Good d) (happ : d.mac.running = some app) (hconnects : s.connects = true)
    (hfresh : s.uuid ∉ d.file.map ConnectionHistoryEntry.id) :
    Settled (app.connect s request d.mac.network).1.entries
        (app.connect s request d.mac.network).1.historyEntryId ∧
      s.uuid ∈ (app.connect s request d.mac.network).1.entries.map ConnectionHistoryEntry.id := by
  obtain ⟨hfile, hsettled⟩ := h.settled happ
  obtain ⟨⟨relay, tier, hentries⟩, hid⟩ :=
    entries_connect_of_connects app d.mac.network request hconnects
  have hdisconnect := settled_disconnect d.mac.network s.now hsettled
  rw [hentries, hid]
  refine ⟨hdisconnect.recordConnect ?_, List.mem_cons_self⟩
  rwa [map_id_disconnect, hfile]

theorem connectFile_of_not_connects (h : s.connects = false) {network : Network}
    {file : List ConnectionHistoryEntry} :
    app.connectFile closed opened s request network file = app.disconnectFile closed s.now file := by
  rw [connectFile, h, if_neg Bool.false_ne_true]

/-! What each move comes to. -/

theorem step_connect {components : Option URLComponents} (happ : d.mac.running = some app)
    (hrequest : parseConnectURL components = some request) :
    d.step (.handleGetURLEvent components s closed opened) =
      some ⟨Mac.after (app.connect s request d.mac.network),
        app.connectFile closed opened s request d.mac.network d.file, d.loaded⟩ := by
  simp only [Desktop.step, Mac.step, happ, hrequest, Option.bind_some, Option.map_some]

theorem step_other_link {components : Option URLComponents} (happ : d.mac.running = some app)
    (hrequest : parseConnectURL components = none) :
    d.step (.handleGetURLEvent components s closed opened) = some d := by
  simp only [Desktop.step, Mac.step, happ, hrequest, Option.bind_some, Option.map_some]

theorem step_disconnect (happ : d.mac.running = some app) (now : ℕ) : d.step (.disconnect now closed) =
    some ⟨Mac.after (app.disconnect now d.mac.network), app.disconnectFile closed now d.file, d.loaded⟩ := by
  simp only [Desktop.step, Mac.step, happ, Option.bind_some, Option.map_some]

theorem step_quit (happ : d.mac.running = some app) (now : ℕ) : d.step (.quit now closed) =
    some ⟨⟨none, (app.disconnect now d.mac.network).2⟩, app.disconnectFile closed now d.file, d.loaded⟩ := by
  simp only [Desktop.step, Mac.step, happ, Option.bind_some, Option.map_some]

theorem step_launch {entries : List ConnectionHistoryEntry} (hloaded : d.loaded = some entries) (now : ℕ) :
    d.step (.launch now) =
      some ⟨⟨some { state := { now := now }, entries := entries }, d.mac.network⟩, d.file, none⟩ := by
  simp only [Desktop.step, Mac.step, hloaded, Option.bind_some, Option.map_some]

/-- All moves but a launch need an instance that runs. -/
theorem running_of_step (hstep : d.step m = some d') (hload : m ≠ .load) (hlaunch : ∀ now, m ≠ .launch now) :
    ∃ app, d.mac.running = some app := by
  cases hrunning : d.mac.running with
  | some app => exact ⟨app, rfl⟩
  | none =>
    cases m with
    | load => exact absurd rfl hload
    | launch now => exact absurd rfl (hlaunch now)
    | handleGetURLEvent components s closed opened =>
      simp only [Desktop.step, hrunning, Option.bind_none] at hstep
      cases hstep
    | disconnect now closed =>
      simp only [Desktop.step, hrunning, Option.bind_none] at hstep
      cases hstep
    | quit now closed =>
      simp only [Desktop.step, hrunning, Option.bind_none] at hstep
      cases hstep

theorem Good.handleGetURLEvent (h : Good d) (happ : d.mac.running = some app)
    (hfresh : s.uuid ∉ d.file.map ConnectionHistoryEntry.id)
    (hclean : if s.connects then d.Written opened else app.historyEntryId ≠ none → d.Written closed) :
    Good ⟨Mac.after (app.connect s request d.mac.network),
      app.connectFile closed opened s request d.mac.network d.file, d.loaded⟩ := by
  cases hconnects : s.connects with
  | true =>
    rw [hconnects, if_pos rfl] at hclean
    obtain ⟨hloaded, hopened⟩ := hclean
    have hsettled := (h.connect request happ hconnects hfresh).1
    have hfile : app.connectFile closed opened s request d.mac.network d.file =
        (app.connect s request d.mac.network).1.entries := by
      rw [connectFile, if_pos hconnects, hopened, save, if_pos rfl]
    rw [hfile, hloaded]
    apply good_of_written
    · rintro app' happ'
      obtain rfl := Option.some.inj happ'
      exact ⟨rfl, hsettled⟩
    · nofun
  | false =>
    rw [hconnects, if_neg Bool.false_ne_true] at hclean
    obtain ⟨hentries, hid⟩ := entries_connect_of_not_connects app d.mac.network request hconnects
    obtain ⟨hsame, hsettled, hloaded⟩ := h.disconnect happ s.now hclean
    rw [connectFile_of_not_connects hconnects]
    refine ⟨hloaded, ?_, nofun⟩
    rintro app' happ'
    obtain rfl := Option.some.inj happ'
    exact ⟨hentries.trans hsame, hid ▸ hsettled⟩

/-- **A clean move keeps the history.** -/
theorem Good.step (h : Good d) (hfresh : Fresh d m) (hclean : Clean d m) (hstep : d.step m = some d') :
    Good d' := by
  cases m with
  | load =>
    simp only [Desktop.step, Option.ite_none_left_eq_some] at hstep
    obtain rfl := Option.some.inj hstep.2
    exact ⟨fun _ hentries => (Option.some.inj hentries).symm, h.running, h.stopped⟩
  | launch now =>
    obtain ⟨entries, hloaded, -⟩ := Option.bind_eq_some_iff.mp hstep
    rw [step_launch hloaded] at hstep
    obtain rfl := Option.some.inj hstep
    obtain rfl := h.loaded entries hloaded
    have hsettled : Settled d.file none := by
      cases hrunning : d.mac.running with
      | none => exact h.stopped hrunning
      | some app => exact hclean app (by rw [hloaded]; nofun) hrunning ▸ (h.running app hrunning).2
    apply good_of_written
    · rintro app happ
      obtain rfl := Option.some.inj happ
      exact ⟨rfl, hsettled⟩
    · nofun
  | handleGetURLEvent components s closed opened =>
    obtain ⟨app, happ⟩ := running_of_step hstep nofun nofun
    cases hrequest : parseConnectURL components with
    | none =>
      rw [step_other_link happ hrequest] at hstep
      obtain rfl := Option.some.inj hstep
      exact h
    | some request =>
      rw [step_connect happ hrequest] at hstep
      obtain rfl := Option.some.inj hstep
      exact h.handleGetURLEvent happ hfresh (hclean app happ (by rw [hrequest]; nofun))
  | disconnect now closed =>
    obtain ⟨app, happ⟩ := running_of_step hstep nofun nofun
    rw [step_disconnect happ] at hstep
    obtain rfl := Option.some.inj hstep
    obtain ⟨hsame, hsettled, hloaded⟩ := h.disconnect happ now (hclean app happ)
    refine ⟨hloaded, ?_, nofun⟩
    rintro app' happ'
    obtain rfl := Option.some.inj happ'
    exact ⟨hsame, hsettled⟩
  | quit now closed =>
    obtain ⟨app, happ⟩ := running_of_step hstep nofun nofun
    rw [step_quit happ] at hstep
    obtain rfl := Option.some.inj hstep
    obtain ⟨-, hsettled, hloaded⟩ := h.disconnect happ now (hclean app happ)
    refine ⟨hloaded, ?_, fun _ => hsettled⟩
    intro app' happ'
    cases happ'

end Moves

section Sample

end Sample

end Desktop

end DVoD.MacClient
