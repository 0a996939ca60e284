import DVoD.Machine.Run
import DVoD.Sql.Database
import DVoD.Text.JsString
import Mathlib.Data.List.Sort

/-!
# Migrations

`migrate`, in any number of processes that share a database and have one connection each.
The statements of the processes are interleaved, may fail, with or without having been
executed, and a process may die between any two of them.  Nothing but the primary key of
`schema_migrations` keeps two processes from applying a file, since each has looked before
its transaction began.  `migrations_applied_once` is that this is enough.
-/

namespace DVoD.Orchestrator

open DVoD.Machine DVoD.Sql DVoD.Text

/-! ### Processes -/

/-- The entries of `MIGRATIONS_DIR` that are migrations; `sort` compares code units. -/
def migrationFiles (entries : List String) : List String :=
  (entries.filter fun f => f.endsWith ".sql").insertionSort fun a b => utf16 a.toList ≤ utf16 b.toList

theorem mem_migrationFiles {entries : List String} {file : String} :
    file ∈ migrationFiles entries ↔ file ∈ entries ∧ file.endsWith ".sql" = true := by
  rw [migrationFiles, List.mem_insertionSort, List.mem_filter]

/-- In the loop: what `readdir` has given, the file at hand, and those that follow. -/
structure Loop where
  entries : List String
  file : String
  rest : List String
deriving DecidableEq

/-- Where a process awaits in `migrate`; `σ` are the statements of the files. -/
inductive Migrate (σ : Type) where
  | stopped
  | createTable
  | readdir
  | select (loop : Loop)
  | readFile (loop : Loop)
  | beginTransaction (loop : Loop) (sql : List σ)
  /-- The statements that have not been executed. -/
  | sql (loop : Loop) (statements : List σ)
  | insert (loop : Loop)
  | commit (loop : Loop)
  /-- In the `catch` block. -/
  | rollback
  | completed (entries : List String)
  /-- Until the process exits. -/
  | thrown
deriving DecidableEq

namespace Migrate

variable {σ : Type}

/-- The head of the loop. -/
def next (entries : List String) : List String → Migrate σ
  | [] => .completed entries
  | file :: rest => .select ⟨entries, file, rest⟩

/-- Where the error that an `await` throws is caught, if it is. -/
def onError : Migrate σ → Option (Migrate σ)
  | .sql _ _ | .insert _ | .commit _ => some .rollback
  | .stopped | .completed _ | .thrown => none
  | _ => some .thrown

end Migrate

/-- How a statement fails: the database reports an error, the connection ends, or there is
    no answer, and the statement may have been executed. -/
inductive Failure where
  | refused
  | disconnected
  | unanswered (executed : Bool)

/-- The processes, and the database; `created` where `schema_migrations` exists. -/
structure Migrating (π σ : Type) where
  db : Database π String σ
  created : Bool
  process : π → Migrate σ

namespace Migrating

/-- What may happen, to one of the processes. -/
inductive Move (π : Type) where
  | start (p : π)
  | readdir (p : π) (entries : List String)
  /-- The database executes the next statement of a file. -/
  | execute (p : π)
  /-- Another `await` is fulfilled. -/
  | answered (p : π)
  | failed (p : π) (failure : Failure)
  | die (p : π)

def start (π σ : Type) : Migrating π σ := ⟨⟨[], [], fun _ => .idle⟩, false, fun _ => .stopped⟩

section Steps

variable {π σ : Type} [DecidableEq π] [Fintype π] (contents : String → List σ) (s : Migrating π σ) (p : π)

def goto (process : Migrate σ) : Migrating π σ :=
  { s with process := Function.update s.process p process }

def setDb (db : Database π String σ) : Migrating π σ := { s with db := db }

def answered : Option (Migrating π σ) :=
  match s.process p with
  | .createTable => some ({ s with created := true }.goto p .readdir)
  | .select loop =>
      if s.created then
        some (s.goto p (if s.db.Visible p loop.file then .next loop.entries loop.rest else .readFile loop))
      else none
  | .readFile loop => some (s.goto p (.beginTransaction loop (contents loop.file)))
  | .beginTransaction loop sql => some ((s.setDb (s.db.beginTransaction p)).goto p (.sql loop sql))
  | .sql loop [] => some (s.goto p (.insert loop))
  | .insert loop =>
      if s.created then (s.db.insert p loop.file).map fun db => (s.setDb db).goto p (.commit loop)
      else none
  | .commit loop => some ((s.setDb (s.db.commit p)).goto p (.next loop.entries loop.rest))
  | .rollback => some ((s.setDb (s.db.rollback p)).goto p .thrown)
  | _ => none

def executed : Option (Migrating π σ) :=
  match s.process p with
  | .sql loop (statement :: statements) =>
      (s.db.execute p statement).map fun db => (s.setDb db).goto p (.sql loop statements)
  | _ => none

def failed (failure : Failure) : Option (Migrating π σ) :=
  match (s.process p).onError, failure with
  | some process, .refused => some ((s.setDb (s.db.refuse p)).goto p process)
  | some process, .disconnected => some ((s.setDb (s.db.rollback p)).goto p process)
  | some process, .unanswered false => some (s.goto p process)
  | some process, .unanswered true => (s.answered contents p).map fun s => s.goto p process
  | none, _ => none

def step (s : Migrating π σ) : Move π → Option (Migrating π σ)
  | .start p =>
      match s.process p with
      | .stopped => some (s.goto p .createTable)
      | _ => none
  | .readdir p entries =>
      match s.process p with
      | .readdir => some (s.goto p (.next entries (migrationFiles entries)))
      | _ => none
  | .execute p => s.executed p
  | .answered p => s.answered contents p
  | .failed p failure => s.failed contents p failure
  | .die p => some ((s.setDb (s.db.rollback p)).goto p .stopped)

end Steps

/-! ### What a process has done -/

/-- Every file is recorded, or the loop comes to it. -/
def Covers (keys : List String) (loop : Loop) : Prop :=
  ∀ file ∈ migrationFiles loop.entries, file ∈ keys ∨ file = loop.file ∨ file ∈ loop.rest

/-- What its connection has in its transaction is what the process has come to; nothing is
    asked where it ends without a commit. -/
def Follows {σ : Type} (contents : String → List σ) (keys : List String)
    (c : Connection String σ) : Migrate σ → Prop
  | .stopped | .createTable | .readdir => c = .idle
  | .select loop | .readFile loop => c = .idle ∧ Covers keys loop
  | .beginTransaction loop sql => c = .idle ∧ sql = contents loop.file ∧ Covers keys loop
  | .sql loop statements => ∃ executed, c = .active [] executed ∧
      contents loop.file = executed ++ statements ∧ Covers keys loop
  | .insert loop => c = .active [] (contents loop.file) ∧ Covers keys loop
  | .commit loop => c = .active [loop.file] (contents loop.file) ∧ Covers keys loop
  | .completed entries => c = .idle ∧ ∀ file ∈ migrationFiles entries, file ∈ keys
  | .rollback | .thrown => True

section Follows

variable {σ : Type} {contents : String → List σ} {keys keys' : List String}
  {c : Connection String σ} {process : Migrate σ} {loop : Loop}

theorem Covers.mono (h : Covers keys loop) (hsub : keys ⊆ keys') : Covers keys' loop := by
  intro file hfile
  exact (h file hfile).imp_left fun hmem => hsub hmem

/-- What another process commits takes nothing from a process. -/
theorem Follows.mono (h : Follows contents keys c process) (hsub : keys ⊆ keys') :
    Follows contents keys' c process := by
  cases process with
  | stopped => exact h
  | createTable => exact h
  | readdir => exact h
  | select loop => exact ⟨h.1, h.2.mono hsub⟩
  | readFile loop => exact ⟨h.1, h.2.mono hsub⟩
  | beginTransaction loop sql => exact ⟨h.1, h.2.1, h.2.2.mono hsub⟩
  | sql loop statements =>
    obtain ⟨executed, hc, hsql, hcovers⟩ := h
    exact ⟨executed, hc, hsql, hcovers.mono hsub⟩
  | insert loop => exact ⟨h.1, h.2.mono hsub⟩
  | commit loop => exact ⟨h.1, h.2.mono hsub⟩
  | completed entries => exact ⟨h.1, fun file hfile => hsub (h.2 file hfile)⟩
  | rollback => trivial
  | thrown => trivial

/-- The head of the loop, once the file at hand is recorded. -/
theorem follows_next (h : Covers keys loop) (hfile : loop.file ∈ keys) :
    Follows contents keys .idle (.next loop.entries loop.rest) := by
  have hrest {file : String} (hmem : file ∈ migrationFiles loop.entries) :
      file ∈ keys ∨ file ∈ loop.rest := by
    rcases h file hmem with hkeys | rfl | hrest
    · exact .inl hkeys
    · exact .inl hfile
    · exact .inr hrest
  cases hcases : loop.rest with
  | nil =>
    refine ⟨rfl, fun file hmem => (hrest hmem).resolve_right ?_⟩
    simp [hcases]
  | cons file rest =>
    refine ⟨rfl, fun file' hmem => (hrest hmem).imp_right fun hmem => ?_⟩
    exact List.mem_cons.mp (hcases ▸ hmem)

theorem follows_first (entries : List String) :
    Follows contents keys .idle (.next entries (migrationFiles entries)) := by
  cases hcases : migrationFiles entries with
  | nil =>
    refine ⟨rfl, fun file hmem => ?_⟩
    rw [hcases] at hmem
    cases hmem
  | cons file rest =>
    refine ⟨rfl, fun file' hmem => .inr ?_⟩
    exact List.mem_cons.mp (hcases ▸ hmem)

end Follows

/-! ### One step -/

section Tracked

variable {π σ : Type} {contents : String → List σ} {s s' : Migrating π σ} {p q : π}
  {process process' : Migrate σ} {db : Database π String σ}

/-- The effects are those of the recorded files, and every process and its connection agree. -/
structure Tracked (contents : String → List σ) (s : Migrating π σ) : Prop where
  unique : s.db.Unique
  effects : s.db.effects = s.db.keys.flatMap contents
  follows : ∀ p, Follows contents s.db.keys (s.db.connection p) (s.process p)

/-- Nothing is committed, or one file that was not recorded, as a whole. -/
def Commits (contents : String → List σ) (s s' : Migrating π σ) : Prop :=
  s'.db.keys = s.db.keys ∧ s'.db.effects = s.db.effects ∨
  ∃ file, file ∉ s.db.keys ∧ s'.db.keys = s.db.keys ++ [file] ∧
    s'.db.effects = s.db.effects ++ contents file

/-- What a step of the process does. -/
structure Stepped (contents : String → List σ) (s s' : Migrating π σ) (p : π) : Prop where
  others : ∀ q, q ≠ p → s'.process q = s.process q ∧ s'.db.connection q = s.db.connection q
  commits : Commits contents s s'
  unique : s'.db.Unique
  follows : Follows contents s'.db.keys (s'.db.connection p) (s'.process p)

theorem Commits.subset (h : Commits contents s s') : s.db.keys ⊆ s'.db.keys := by
  rcases h with ⟨hkeys, -⟩ | ⟨file, -, hkeys, -⟩
  · exact hkeys ▸ List.Subset.refl _
  · exact hkeys ▸ List.subset_append_left ..

theorem Tracked.step (h : s.Tracked contents) (hstep : Stepped contents s s' p) :
    s'.Tracked contents := by
  refine ⟨hstep.unique, ?_, ?_⟩
  · rcases hstep.commits with ⟨hkeys, heffects⟩ | ⟨file, -, hkeys, heffects⟩
    · rw [hkeys, heffects, h.effects]
    · rw [hkeys, heffects, h.effects, List.flatMap_append, List.flatMap_singleton]
  · intro q
    by_cases hq : q = p
    · subst hq
      exact hstep.follows
    · obtain ⟨hprocess, hconnection⟩ := hstep.others q hq
      rw [hprocess, hconnection]
      exact (h.follows q).mono hstep.commits.subset

@[simp] theorem setDb_db : (s.setDb db).db = db := rfl

variable [DecidableEq π]

@[simp] theorem goto_db : (s.goto p process).db = s.db := rfl

@[simp] theorem goto_process_self : (s.goto p process).process p = process := Function.update_self ..

theorem goto_process_of_ne (h : q ≠ p) : (s.goto p process).process q = s.process q :=
  Function.update_of_ne h ..

/-- Steps that leave the database as it is. -/
theorem stepped_goto (h : s.Tracked contents)
    (hfollows : Follows contents s.db.keys (s.db.connection p) process) :
    Stepped contents s (s.goto p process) p := by
  refine ⟨fun q hq => ⟨goto_process_of_ne hq, rfl⟩, .inl ⟨rfl, rfl⟩, h.unique, ?_⟩
  rw [goto_process_self]
  exact hfollows

/-- Steps that commit nothing. -/
theorem stepped_set {c : Connection String σ} (hunique : (s.db.set p c).Unique)
    (hfollows : Follows contents s.db.keys c process) :
    Stepped contents s ((s.setDb (s.db.set p c)).goto p process) p := by
  refine ⟨fun q hq => ⟨goto_process_of_ne hq, Database.set_connection_of_ne hq⟩,
    .inl ⟨rfl, rfl⟩, hunique, ?_⟩
  rw [goto_process_self, goto_db, setDb_db, Database.set_connection_self]
  exact hfollows

/-- **The commit**: the file and its row, which nobody has committed before. -/
theorem stepped_commit (h : s.Tracked contents) {loop : Loop} (hprocess : s.process p = .commit loop) :
    Stepped contents s ((s.setDb (s.db.commit p)).goto p (.next loop.entries loop.rest)) p := by
  obtain ⟨hactive, hcovers⟩ : s.db.connection p = .active [loop.file] (contents loop.file) ∧
      Covers s.db.keys loop := by
    have hfollows := h.follows p
    rw [hprocess] at hfollows
    exact hfollows
  have hfresh : loop.file ∉ s.db.keys := h.unique.fresh p _ (by simp [hactive])
  have hunique := h.unique.commit hactive
  rw [Database.commit_of_active hactive] at hunique ⊢
  refine ⟨fun q hq => ⟨goto_process_of_ne hq, Database.set_connection_of_ne hq⟩,
    .inr ⟨loop.file, hfresh, rfl, rfl⟩, hunique, ?_⟩
  rw [goto_process_self]
  have hidle : ((s.db.set p .idle).connection p) = .idle := Database.set_connection_self
  simp only [goto_db, setDb_db, hidle]
  exact follows_next (hcovers.mono (List.subset_append_left ..)) (by simp)

theorem stepped_executed (h : s.Tracked contents) (hstep : s.executed p = some s') :
    Stepped contents s s' p := by
  have hfollows := h.follows p
  unfold executed at hstep
  split at hstep
  · next loop statement statements hprocess =>
    rw [hprocess] at hfollows
    obtain ⟨executed, hactive, hsql, hcovers⟩ := hfollows
    rw [Database.execute_of_active hactive] at hstep
    obtain rfl := Option.some.inj hstep
    refine stepped_set (h.unique.set (by simp [hactive])) ⟨executed ++ [statement], rfl, ?_, hcovers⟩
    rw [hsql, List.append_assoc, List.singleton_append]
  · cases hstep

/-- After an error, a process ends without a commit. -/
theorem follows_onError {keys : List String} {c : Connection String σ}
    (h : process.onError = some process') : Follows contents keys c process' := by
  cases process with
  | stopped => cases h
  | completed entries => cases h
  | thrown => cases h
  | _ =>
    obtain rfl := Option.some.inj h
    trivial

variable [Fintype π]

/-- The insertion does not fail: no other process has applied the file, or is about to. -/
theorem stepped_insert (h : s.Tracked contents) {loop : Loop} (hprocess : s.process p = .insert loop)
    (hinsert : s.db.insert p loop.file = some db) :
    Stepped contents s ((s.setDb db).goto p (.commit loop)) p := by
  obtain ⟨hactive, hcovers⟩ : s.db.connection p = .active [] (contents loop.file) ∧
      Covers s.db.keys loop := by
    have hfollows := h.follows p
    rw [hprocess] at hfollows
    exact hfollows
  obtain ⟨hfree, rfl⟩ := Database.insert_of_active hactive hinsert
  exact stepped_set (h.unique.insert hactive hfree) ⟨rfl, hcovers⟩

theorem stepped_answered (h : s.Tracked contents) (hstep : s.answered contents p = some s') :
    Stepped contents s s' p := by
  have hfollows := h.follows p
  unfold answered at hstep
  split at hstep
  · next hprocess =>
    obtain rfl := Option.some.inj hstep
    rw [hprocess] at hfollows
    have hcreated : Tracked contents { s with created := true } := ⟨h.unique, h.effects, h.follows⟩
    have hgoto : Stepped contents _ (({ s with created := true } : Migrating π σ).goto p .readdir) p :=
      stepped_goto hcreated hfollows
    exact ⟨hgoto.others, hgoto.commits, hgoto.unique, hgoto.follows⟩
  · next loop hprocess =>
    rw [hprocess] at hfollows
    split at hstep
    · obtain rfl := Option.some.inj hstep
      refine stepped_goto h ?_
      split
      · next hvisible =>
        -- its connection is idle: what it sees is committed
        have hfile : loop.file ∈ s.db.keys := by simpa [Database.Visible, hfollows.1] using hvisible
        rw [hfollows.1]
        exact follows_next hfollows.2 hfile
      · exact hfollows
    · cases hstep
  · next loop hprocess =>
    obtain rfl := Option.some.inj hstep
    rw [hprocess] at hfollows
    exact stepped_goto h ⟨hfollows.1, rfl, hfollows.2⟩
  · next loop sql hprocess =>
    obtain rfl := Option.some.inj hstep
    rw [hprocess] at hfollows
    obtain ⟨hidle, hsql, hcovers⟩ := hfollows
    rw [Database.beginTransaction_of_idle hidle]
    exact stepped_set (h.unique.set (List.nil_sublist _)) ⟨[], rfl, hsql.symm, hcovers⟩
  · next loop hprocess =>
    obtain rfl := Option.some.inj hstep
    rw [hprocess] at hfollows
    obtain ⟨executed, hactive, hsql, hcovers⟩ := hfollows
    rw [List.append_nil] at hsql
    exact stepped_goto h ⟨hsql.symm ▸ hactive, hcovers⟩
  · next loop hprocess =>
    split at hstep
    · obtain ⟨db, hinsert, rfl⟩ := Option.map_eq_some_iff.mp hstep
      exact stepped_insert h hprocess hinsert
    · cases hstep
  · next loop hprocess =>
    obtain rfl := Option.some.inj hstep
    exact stepped_commit h hprocess
  · obtain rfl := Option.some.inj hstep
    exact stepped_set h.unique.rollback trivial
  · cases hstep

theorem stepped_failed (h : s.Tracked contents) {failure : Failure}
    (hstep : s.failed contents p failure = some s') : Stepped contents s s' p := by
  unfold failed at hstep
  split at hstep
  · next process herror =>
    obtain rfl := Option.some.inj hstep
    refine ⟨fun q hq => ⟨goto_process_of_ne hq, Database.refuse_connection_of_ne hq⟩,
      .inl ⟨Database.refuse_keys, Database.refuse_effects⟩, h.unique.refuse, ?_⟩
    rw [goto_process_self]
    exact follows_onError herror
  · next process herror =>
    obtain rfl := Option.some.inj hstep
    exact stepped_set h.unique.rollback (follows_onError herror)
  · next process herror =>
    obtain rfl := Option.some.inj hstep
    exact stepped_goto h (follows_onError herror)
  · next process herror =>
    obtain ⟨s₁, hanswered, rfl⟩ := Option.map_eq_some_iff.mp hstep
    have hstepped := stepped_answered h hanswered
    refine ⟨fun q hq => ?_, hstepped.commits, hstepped.unique, ?_⟩
    · rw [goto_process_of_ne hq]
      exact hstepped.others q hq
    · rw [goto_process_self]
      exact follows_onError herror
  · cases hstep

theorem stepped {m : Move π} (h : s.Tracked contents) (hstep : step contents s m = some s') :
    ∃ p, Stepped contents s s' p := by
  cases m with
  | start p =>
    refine ⟨p, ?_⟩
    have hfollows := h.follows p
    simp only [step] at hstep
    split at hstep
    · next hprocess =>
      obtain rfl := Option.some.inj hstep
      rw [hprocess] at hfollows
      exact stepped_goto h hfollows
    · cases hstep
  | readdir p entries =>
    refine ⟨p, ?_⟩
    have hfollows := h.follows p
    simp only [step] at hstep
    split at hstep
    · next hprocess =>
      obtain rfl := Option.some.inj hstep
      rw [hprocess] at hfollows
      refine stepped_goto h ?_
      rw [show s.db.connection p = .idle from hfollows]
      exact follows_first entries
    · cases hstep
  | execute p => exact ⟨p, stepped_executed h hstep⟩
  | answered p => exact ⟨p, stepped_answered h hstep⟩
  | failed p failure => exact ⟨p, stepped_failed h hstep⟩
  | die p =>
    obtain rfl := Option.some.inj hstep
    exact ⟨p, stepped_set h.unique.rollback rfl⟩

end Tracked

/-! ### The ledger -/

/-- What `schema_migrations` is for: the files that have been applied, in order, each once. -/
@[ext] structure Ledger where
  files : List String
  nodup : files.Nodup

/-- The effects of all files, as wholes. -/
def Ledger.schema {σ : Type} (contents : String → List σ) (l : Ledger) : List σ := l.files.flatMap contents

def Ledger.apply (l : Ledger) (file : String) (h : file ∉ l.files) : Ledger :=
  ⟨l.files ++ [file], List.nodup_append_comm.mp (List.nodup_cons.mpr ⟨h, l.nodup⟩)⟩

section Ledger

variable {π σ : Type} {contents : String → List σ} {s s' : Migrating π σ}

def Tracked.ledger (h : s.Tracked contents) : Ledger := ⟨s.db.keys, h.unique.committed⟩

theorem Tracked.effects_eq_schema (h : s.Tracked contents) :
    s.db.effects = h.ledger.schema contents := h.effects

variable [DecidableEq π] [Fintype π] {ms : List (Move π)} {m : Move π}

/-- **Refinement.**  A step of a process applies one file to the ledger, or leaves it as it is. -/
theorem step_refines (h : s.Tracked contents) (hstep : step contents s m = some s') :
    ∃ h' : s'.Tracked contents, h'.ledger = h.ledger ∨
      ∃ file hfile, h'.ledger = h.ledger.apply file hfile := by
  obtain ⟨p, hstepped⟩ := stepped h hstep
  refine ⟨h.step hstepped, ?_⟩
  rcases hstepped.commits with ⟨hkeys, -⟩ | ⟨file, hfile, hkeys, -⟩
  · exact .inl (Ledger.ext hkeys)
  · exact .inr ⟨file, hfile, Ledger.ext hkeys⟩

theorem tracked_run (hrun : run (step contents) (start π σ) ms = some s) : s.Tracked contents := by
  have hstart : (start π σ).Tracked contents :=
    ⟨⟨.nil, fun _ => .nil, nofun, nofun⟩, rfl, fun _ => rfl⟩
  exact run_keeps (fun h hstep => (step_refines h hstep).1) hrun hstart

/-- **Migrations are applied once, and as wholes.**  For all files, any number of processes,
    and every order of statements, failures, deaths and restarts: the committed effects are
    those of the recorded files, each applied once, and a process that has completed has
    recorded every migration that it found. -/
theorem migrations_applied_once (contents : String → List σ)
    (hrun : run (step contents) (start π σ) ms = some s) :
    s.db.effects = s.db.keys.flatMap contents ∧ s.db.keys.Nodup ∧
    ∀ p entries, s.process p = .completed entries →
      ∀ file ∈ entries, file.endsWith ".sql" = true → file ∈ s.db.keys := by
  have h := tracked_run hrun
  refine ⟨h.effects_eq_schema, h.ledger.nodup, ?_⟩
  intro p entries hcompleted file hfile hsql
  have hfollows := h.follows p
  rw [hcompleted] at hfollows
  exact hfollows.2 file (mem_migrationFiles.mpr ⟨hfile, hsql⟩)

end Ledger

/-! ### A process that is left alone -/

section Alone

variable {π σ : Type} {contents : String → List σ} {s s' : Migrating π σ} {p : π}
  {process process' process'' : Migrate σ} {loop : Loop}
  {keys keys' keys'' : List String}

/-- The process has come to `process`, and nobody else has inserted a row without a commit. -/
structure Alone (contents : String → List σ) (p : π) (keys : List String) (process : Migrate σ)
    (s : Migrating π σ) : Prop where
  tracked : s.Tracked contents
  others : ∀ q, q ≠ p → (s.db.connection q).keys = []
  created : s.created = true
  keys : s.db.keys = keys
  process : s.process p = process

theorem Alone.follows (h : Alone contents p keys process s) :
    Follows contents keys (s.db.connection p) process := by
  have hfollows := h.tracked.follows p
  rwa [h.process, h.keys] at hfollows

variable [DecidableEq π] [Fintype π]

/-- The move is one of the process, and nothing fails. -/
def Move.Smooth (p : π) : Move π → Prop
  | .start q | .readdir q _ | .execute q | .answered q => q = p
  | .failed _ _ | .die _ => False

/-- By its own moves, the process comes from the one place to the other. -/
def Leads (contents : String → List σ) (p : π) (keys : List String) (process : Migrate σ)
    (keys' : List String) (process' : Migrate σ) : Prop :=
  ∀ s, Alone contents p keys process s →
    ∃ ms s', (∀ m ∈ ms, m.Smooth p) ∧ run (step contents) s ms = some s' ∧
      Alone contents p keys' process' s'

theorem Leads.refl : Leads contents p keys process keys process :=
  fun s halone => ⟨[], s, List.forall_mem_nil _, rfl, halone⟩

theorem Leads.trans (h : Leads contents p keys process keys' process')
    (h' : Leads contents p keys' process' keys'' process'') :
    Leads contents p keys process keys'' process'' := by
  intro s halone
  obtain ⟨ms, s₁, hms, hrun, halone₁⟩ := h s halone
  obtain ⟨ms', s₂, hms', hrun', halone₂⟩ := h' s₁ halone₁
  exact ⟨ms ++ ms', s₂, List.forall_mem_append.mpr ⟨hms, hms'⟩, run_append.mpr ⟨s₁, hrun, hrun'⟩, halone₂⟩

theorem leads_of_step {m : Move π} (hm : m.Smooth p) (h : ∀ s, Alone contents p keys process s → ∃ s',
    step contents s m = some s' ∧ Stepped contents s s' p ∧ s'.created = true ∧
    s'.db.keys = keys' ∧ s'.process p = process') : Leads contents p keys process keys' process' := by
  intro s halone
  obtain ⟨s', hstep, hstepped, hcreated, hkeys, hprocess⟩ := h s halone
  refine ⟨[m], s', List.forall_mem_singleton.mpr hm, run_cons.mpr ⟨s', hstep, rfl⟩,
    halone.tracked.step hstepped, ?_, hcreated, hkeys, hprocess⟩
  intro q hq
  rw [(hstepped.others q hq).2]
  exact halone.others q hq

theorem leads_answered (h : ∀ s, Alone contents p keys process s → ∃ db,
    s.answered contents p = some ((s.setDb db).goto p process') ∧ db.keys = keys') :
    Leads contents p keys process keys' process' := by
  refine leads_of_step (m := .answered p) rfl fun s halone => ?_
  obtain ⟨db, hanswered, hkeys⟩ := h s halone
  exact ⟨_, hanswered, stepped_answered halone.tracked hanswered, halone.created, hkeys,
    goto_process_self⟩

/-- The database executes all statements of the file. -/
theorem leads_sql (statements : List σ) :
    Leads contents p keys (.sql loop statements) keys (.sql loop []) := by
  induction statements with
  | nil => exact Leads.refl
  | cons statement statements ih =>
    refine Leads.trans (leads_of_step (m := .execute p) rfl fun s halone => ?_) ih
    obtain ⟨executed, hactive, -⟩ := halone.follows
    have hexecuted : s.executed p = some ((s.setDb (s.db.set p
        (.active [] (executed ++ [statement])))).goto p (.sql loop statements)) := by
      simp only [Migrating.executed, halone.process, Database.execute_of_active hactive,
        Option.map_some]
    exact ⟨_, hexecuted, stepped_executed halone.tracked hexecuted, halone.created, halone.keys,
      goto_process_self⟩

/-- Nothing stands in the way of the insertion. -/
theorem leads_insert (hfresh : loop.file ∉ keys) :
    Leads contents p keys (.insert loop) keys (.commit loop) := by
  refine leads_answered fun s halone => ?_
  obtain ⟨hactive, -⟩ := halone.follows
  have hfree : ¬ s.db.Held loop.file := by
    rintro (hkeys | ⟨q, hq⟩)
    · exact hfresh (halone.keys ▸ hkeys)
    · by_cases hp : q = p
      · subst hp
        simp [hactive] at hq
      · rw [halone.others q hp] at hq
        cases hq
  have hinsert : s.db.insert p loop.file =
      some (s.db.set p (.active [loop.file] (contents loop.file))) := by
    rw [Database.insert, if_neg hfree, hactive]
    rfl
  refine ⟨s.db.set p (.active [loop.file] (contents loop.file)), ?_, halone.keys⟩
  simp only [answered, halone.process, if_pos halone.created, hinsert, Option.map_some]

/-- The rows after a file of the loop. -/
def record (keys : List String) (file : String) : List String :=
  if file ∈ keys then keys else keys ++ [file]

theorem foldl_record {files : List String} (hnodup : files.Nodup) (keys : List String) :
    files.foldl record keys = keys ++ files.filter (· ∉ keys) := by
  induction files generalizing keys with
  | nil => simp
  | cons file files ih =>
    obtain ⟨hfile, hnodup⟩ := List.nodup_cons.mp hnodup
    rw [List.foldl_cons, ih hnodup]
    by_cases hkeys : file ∈ keys
    · simp [record, hkeys]
    · have hcongr : files.filter (· ∉ keys ++ [file]) = files.filter (· ∉ keys) := by
        apply List.filter_congr
        intro other hother
        have hne : other ≠ file := fun heq => hfile (heq ▸ hother)
        simp [hne]
      rw [record, if_neg hkeys, hcongr, List.filter_cons_of_pos (by simpa using hkeys),
        List.append_assoc, List.singleton_append]

/-- One file of the loop. -/
theorem leads_select :
    Leads contents p keys (.select loop) (record keys loop.file) (.next loop.entries loop.rest) := by
  by_cases hfile : loop.file ∈ keys
  · rw [record, if_pos hfile]
    refine leads_answered fun s halone => ?_
    have hvisible : s.db.Visible p loop.file := .inl (halone.keys.symm ▸ hfile)
    refine ⟨s.db, ?_, halone.keys⟩
    simp only [answered, halone.process, if_pos halone.created, if_pos hvisible]
    rfl
  · have hselect : Leads contents p keys (.select loop) keys (.readFile loop) := by
      refine leads_answered fun s halone => ?_
      obtain ⟨hidle, -⟩ := halone.follows
      have hvisible : ¬ s.db.Visible p loop.file := by
        simpa [Database.Visible, hidle, halone.keys] using hfile
      refine ⟨s.db, ?_, halone.keys⟩
      simp only [answered, halone.process, if_pos halone.created, if_neg hvisible]
      rfl
    have hread : Leads contents p keys (.readFile loop) keys
        (.beginTransaction loop (contents loop.file)) := by
      refine leads_answered fun s halone => ⟨s.db, ?_, halone.keys⟩
      simp only [answered, halone.process]
      rfl
    have hbegin : Leads contents p keys (.beginTransaction loop (contents loop.file)) keys
        (.sql loop (contents loop.file)) := by
      refine leads_answered fun s halone => ?_
      have hbegin := Database.beginTransaction_of_idle halone.follows.1
      refine ⟨s.db.set p (.active [] []), ?_, halone.keys⟩
      simp only [answered, halone.process, hbegin]
    have hsql : Leads contents p keys (.sql loop []) keys (.insert loop) := by
      refine leads_answered fun s halone => ⟨s.db, ?_, halone.keys⟩
      simp only [answered, halone.process]
      rfl
    have hcommit : Leads contents p keys (.commit loop) (keys ++ [loop.file])
        (.next loop.entries loop.rest) := by
      refine leads_answered fun s halone => ?_
      have hcommit := Database.commit_of_active halone.follows.1
      refine ⟨s.db.commit p, ?_, ?_⟩
      · simp only [answered, halone.process]
      · rw [hcommit, halone.keys]
    rw [record, if_neg hfile]
    exact hselect.trans (hread.trans (hbegin.trans ((leads_sql _).trans
      (hsql.trans ((leads_insert hfile).trans hcommit)))))

theorem leads_completed (entries rest : List String) :
    Leads contents p keys (.next entries rest) (rest.foldl record keys) (.completed entries) := by
  induction rest generalizing keys with
  | nil => exact Leads.refl
  | cons file rest ih =>
    have hselect : Leads contents p keys (.select ⟨entries, file, rest⟩) (record keys file)
        (.next entries rest) := leads_select
    exact hselect.trans ih

/-- **A process that is left alone completes**: it starts where no other one has inserted a
    row without a commit, and nothing fails. -/
theorem completes_alone (h : s.Tracked contents) (hstopped : s.process p = .stopped)
    (hothers : ∀ q, q ≠ p → (s.db.connection q).keys = []) (entries : List String) :
    ∃ ms s', (∀ m ∈ ms, m.Smooth p) ∧ run (step contents) s ms = some s' ∧ s'.Tracked contents ∧
      s'.process p = .completed entries ∧
      s'.db.keys = (migrationFiles entries).foldl record s.db.keys := by
  let s₁ := s.goto p .createTable
  let s₂ := { s₁ with created := true }.goto p .readdir
  let s₃ := s₂.goto p (.next entries (migrationFiles entries))
  have h₁ : step contents s (.start p) = some s₁ := by simp only [step, hstopped, s₁]
  have h₂ : step contents s₁ (.answered p) = some s₂ := by
    simp only [step, answered, s₁, s₂, goto_process_self]
  have h₃ : step contents s₂ (.readdir p entries) = some s₃ := by
    simp only [step, s₂, s₃, goto_process_self]
  have hrun : run (step contents) s [.start p, .answered p, .readdir p entries] = some s₃ :=
    run_cons.mpr ⟨s₁, h₁, run_cons.mpr ⟨s₂, h₂, run_cons.mpr ⟨s₃, h₃, rfl⟩⟩⟩
  have htracked : s₃.Tracked contents := by
    obtain ⟨ht₁, -⟩ := step_refines h h₁
    obtain ⟨ht₂, -⟩ := step_refines ht₁ h₂
    exact (step_refines ht₂ h₃).1
  obtain ⟨ms, s', hms, hrun', halone⟩ := leads_completed entries (migrationFiles entries) s₃
    ⟨htracked, hothers, rfl, rfl, goto_process_self⟩
  refine ⟨[.start p, .answered p, .readdir p entries] ++ ms, s', ?_, run_append.mpr ⟨s₃, hrun, hrun'⟩,
    halone.tracked, halone.process, halone.keys⟩
  simpa [Move.Smooth] using hms

/-- The processes die, one after another. -/
theorem run_die (contents : String → List σ) (s : Migrating π σ) (ps : List π) :
    ∃ s', run (step contents) s (ps.map .die) = some s' ∧ s'.db.keys = s.db.keys ∧
      s'.db.effects = s.db.effects ∧
      ∀ p, p ∈ ps ∨ s.db.connection p = .idle ∧ s.process p = .stopped →
        s'.db.connection p = .idle ∧ s'.process p = .stopped := by
  induction ps generalizing s with
  | nil => exact ⟨s, rfl, rfl, rfl, fun p hp => hp.resolve_left List.not_mem_nil⟩
  | cons q ps ih =>
    let s₁ := (s.setDb (s.db.rollback q)).goto q .stopped
    obtain ⟨s', hrun, hkeys, heffects, hstopped⟩ := ih s₁
    refine ⟨s', run_cons.mpr ⟨s₁, rfl, hrun⟩, hkeys, heffects, fun p hp => hstopped p ?_⟩
    by_cases hpq : p = q
    · subst hpq
      exact .inr ⟨Database.set_connection_self, goto_process_self⟩
    · refine (hp.imp_left fun hmem => (List.mem_cons.mp hmem).resolve_left hpq).imp_right ?_
      intro hidle
      exact ⟨(Database.set_connection_of_ne hpq).trans hidle.1, (goto_process_of_ne hpq).trans hidle.2⟩

end Alone

/-- **A restart applies what is missing.**  Whatever the processes have come to, after all of
    them have died, in any order, any one of them, left alone, completes, and applies the
    migrations that are not recorded, once each and in order, on top of what has been
    committed. -/
theorem restart_applies_missing {π σ : Type} [DecidableEq π] [Fintype π] (contents : String → List σ)
    {ms : List (Move π)} {s : Migrating π σ} (hrun : run (step contents) (start π σ) ms = some s)
    {ps : List π} (hall : ∀ q, q ∈ ps) (p : π) {entries : List String} (hentries : entries.Nodup) :
    ∃ (ms' : List (Move π)) (s' : Migrating π σ), (∀ m ∈ ms', m.Smooth p) ∧
      run (step contents) s (ps.map .die ++ ms') = some s' ∧ s'.process p = .completed entries ∧
      s'.db.keys = s.db.keys ++ (migrationFiles entries).filter (· ∉ s.db.keys) ∧
      s'.db.effects =
        s.db.effects ++ ((migrationFiles entries).filter (· ∉ s.db.keys)).flatMap contents := by
  have htracked := tracked_run hrun
  obtain ⟨s₁, hdie, hkeys, heffects, hstopped⟩ := run_die contents s ps
  have hdead (q : π) := hstopped q (.inl (hall q))
  have htracked₁ : s₁.Tracked contents :=
    run_keeps (fun h hstep => (step_refines h hstep).1) hdie htracked
  have hothers : ∀ q, q ≠ p → (s₁.db.connection q).keys = [] := by
    intro q _
    rw [(hdead q).1, Connection.keys_idle]
  obtain ⟨ms', s', hms', hrun', htracked', hcompleted, hkeys'⟩ :=
    completes_alone htracked₁ (hdead p).2 hothers entries
  have hnodup : (migrationFiles entries).Nodup :=
    (List.perm_insertionSort _ _).nodup_iff.mpr (hentries.filter _)
  rw [foldl_record hnodup, hkeys] at hkeys'
  refine ⟨ms', s', hms', run_append.mpr ⟨s₁, hdie, hrun'⟩, hcompleted, hkeys', ?_⟩
  rw [htracked'.effects, hkeys', List.flatMap_append, ← htracked.effects]

/-- The one process has inserted the row and has not committed it; the other one applies the file. -/
theorem restart_applies_missing_inserted : ∃ (ms' : List (Move (Fin 2))) (s s' : Migrating (Fin 2) ℕ),
    s.process 0 = .commit ⟨["001.sql"], "001.sql", []⟩ ∧
      run (step fun _ => [1, 2]) s ([0, 1].map .die ++ ms') = some s' ∧
      s'.process 1 = .completed ["001.sql"] ∧ s'.db.keys = ["001.sql"] := by
  obtain ⟨s, hrun, hcommit, hkeys⟩ : ∃ s, run (step fun _ => [1, 2]) (start (Fin 2) ℕ)
      [.start 0, .answered 0, .readdir 0 ["001.sql"], .answered 0, .answered 0, .answered 0,
        .execute 0, .execute 0, .answered 0, .answered 0] = some s ∧
      s.process 0 = .commit ⟨["001.sql"], "001.sql", []⟩ ∧ s.db.keys = [] := exists_run (by decide +kernel)
  have hall : ∀ q : Fin 2, q ∈ ([0, 1] : List (Fin 2)) := by decide
  obtain ⟨ms', s', -, hrun', hcompleted, hkeys', -⟩ :=
    restart_applies_missing (fun _ => [1, 2]) hrun hall 1 (List.nodup_singleton "001.sql")
  have hfiles : migrationFiles ["001.sql"] = ["001.sql"] := by decide +kernel
  rw [hkeys, hfiles] at hkeys'
  exact ⟨ms', s, s', hcommit, hrun', hcompleted, hkeys'⟩

/-- Two processes find the same file not applied.  The row of the first makes the insertion
    of the second fail, which starts again and finds the file applied. -/
def Sample.raced : List (Move (Fin 2)) :=
  let look (p : Fin 2) := [Move.start p, .answered p, .readdir p ["001.sql", "README.md"], .answered p]
  let apply (p : Fin 2) := [Move.answered p, .answered p, .execute p, .execute p, .answered p]
  look 0 ++ look 1 ++ apply 0 ++ apply 1 ++
    [.answered 0, .failed 1 .refused, .answered 0, .answered 1, .die 1] ++ look 1

theorem migrations_applied_once_raced : ∃ s : Migrating (Fin 2) ℕ,
    run (step fun _ => [1, 2]) (start (Fin 2) ℕ) Sample.raced = some s ∧
    s.process 1 = .completed ["001.sql", "README.md"] ∧
    s.db.effects = s.db.keys.flatMap (fun _ => [1, 2]) ∧ s.db.keys.Nodup ∧
    ∀ p entries, s.process p = .completed entries →
      ∀ file ∈ entries, file.endsWith ".sql" = true → file ∈ s.db.keys := by
  obtain ⟨s, hrun, hcompleted⟩ : ∃ s, run (step fun _ => [1, 2]) (start (Fin 2) ℕ) Sample.raced = some s ∧
      s.process 1 = .completed ["001.sql", "README.md"] :=
    exists_run (by decide +kernel)
  exact ⟨s, hrun, hcompleted, migrations_applied_once (fun _ => [1, 2]) hrun⟩

end Migrating

end DVoD.Orchestrator
