import DataLayer.Proofs.Script.Secrecy

/-! Programs that use a database: jobs one after the other, each at a time of its own, and blocks of them on a connection
that is closed afterwards, nested as deeply as one likes. Main statement: where two databases show the same of every
job, they show the same of every program. -/

namespace DataLayer.Script

open DataLayer.Action

/-- A part of a program that uses a database. -/
inductive Errand where
  | job (now : Moment) (job : Job)
  /-- Errands on an open connection that is closed afterwards. -/
  | within (now : Moment) (errands : List Errand)

namespace Errand

variable {σ τ κ : Type}

mutual

/-- Runs an errand and tells what its jobs come to. -/
def perform (db : Database σ) : Errand → Action σ (List Job.Outcome)
  | .job now work => do return [← work.perform { db with now }]
  | .within now errands => Database.within { db with now } (performEach db errands)

/-- Runs errands one after the other until one fails. -/
def performEach (db : Database σ) : List Errand → Action σ (List Job.Outcome)
  | [] => return []
  | errand :: rest => do
    let first ← perform db errand
    return first ++ (← performEach db rest)

end

/-- Runs errands one after the other, whether those before failed or not. -/
def performAll (db : Database σ) : List Errand → StateM (Session σ) (List (Except Fault (List Job.Outcome)))
  | [] => return []
  | errand :: rest => do
    let result ← (perform db errand).run
    return result :: (← performAll db rest)

variable {sessions : Session σ → Session τ → Prop} {db : Database σ} {other : Database τ} {view : Fault → κ}
  {heard : String → String}

mutual

theorem perform_accords (acts : ∀ now, ({ db with now } : Database σ).ActsAlike { other with now } sessions view heard)
    (errand : Errand) :
    Accords sessions view (List.map (Job.Outcome.heardAs heard)) (perform db errand) (perform other errand) := by
  match errand with
  | .job now work =>
    refine accords_bind (Job.perform_accords (acts now) work) fun outcome outcome' same => accords_pure ?_
    exact List.cons_eq_cons.mpr ⟨same, rfl⟩
  | .within now errands => exact (acts now).within_accords (performEach_accords acts errands)

theorem performEach_accords
    (acts : ∀ now, ({ db with now } : Database σ).ActsAlike { other with now } sessions view heard)
    (errands : List Errand) :
    Accords sessions view (List.map (Job.Outcome.heardAs heard)) (performEach db errands) (performEach other errands) := by
  match errands with
  | [] => exact accords_pure rfl
  | errand :: rest =>
    refine accords_bind (perform_accords acts errand) fun first first' same => ?_
    refine accords_bind (performEach_accords acts rest) fun others others' also => accords_pure ?_
    rw [List.map_append, List.map_append, same, also]

end

/-- What is seen of the result of an errand. -/
def seen (view : Fault → κ) (heard : String → String) (result : Except Fault (List Job.Outcome)) :
    Except κ (List Job.Outcome) :=
  (result.mapError view).map (List.map (Job.Outcome.heardAs heard))

/-- Where everything is seen of faults and heard of words, everything is seen. -/
theorem seen_id (result : Except Fault (List Job.Outcome)) : seen id id result = result := by
  have whole : Job.Outcome.heardAs id = id := funext Job.Outcome.heardAs_id
  cases result with
  | error fault => rfl
  | ok outcomes =>
    unfold seen
    rw [whole, List.map_id_fun]
    rfl

theorem performAll_couples
    (acts : ∀ now, ({ db with now } : Database σ).ActsAlike { other with now } sessions view heard)
    (errands : List Errand) :
    Session.Couples sessions (List.map (seen view heard)) (performAll db errands) (performAll other errands) := by
  induction errands with
  | nil => exact Session.couples_pure rfl
  | cons errand rest ih =>
    refine Session.couples_bind (perform_accords acts errand) fun result result' same => ?_
    refine Session.couples_bind ih fun results results' others => Session.couples_pure ?_
    exact List.cons_eq_cons.mpr ⟨same, others⟩

end Errand
end DataLayer.Script

/-! A password is for the engine only. It stands in the one request that opens a handle, and everything else that is
said of the connection shows at most that there is a password. Main statement: two databases that differ in their
passwords cannot be told apart by anything but the keyword that the engine is given, whatever is done with them. -/

namespace DataLayer

open DataLayer.Action

variable {σ τ : Type} {related : σ → τ → Prop}

/-- What an engine is asked for, without the password. -/
def EngineEvent.discreet : EngineEvent → EngineEvent
  | .connect kind keywords => .connect kind
      (keywords.map fun keyword => if keyword.1 = "password" then (keyword.1, .null) else keyword)
  | event => event

namespace Database

open Session (Resembles)

variable {db : Database σ} {other : Driver τ} {password : Value}

theorem discreet_serverKeywords (config : Config) (password : Value) :
    EngineEvent.discreet (.connect .mysql (serverKeywords config ++ config.options)) =
      EngineEvent.discreet (.connect .mysql (serverKeywords { config with password } ++ config.options)) := by
  simp [EngineEvent.discreet, serverKeywords]

theorem servesAlike_discreet (concurs : db.driver.Concurs related id id Eq other)
    (both : db.config.password.isTruthy = password.isTruthy) :
    ServesAlike db ((db.on other).withPassword password) (Resembles related EngineEvent.discreet id) id := by
  have kinds ⦃complaint complaint' : EngineFault⦄ (same : id complaint = id complaint') :
      complaint.kind = complaint'.kind := congrArg EngineFault.kind same
  have opens : OpensAlike db ((db.on other).withPassword password) (Resembles related EngineEvent.discreet id) id :=
    opensAlike_resembles concurs both (discreet_serverKeywords db.config password) kinds
  have runs : RunsAlike db ((db.on other).withPassword password) (Resembles related EngineEvent.discreet id) id id Eq := by
    refine runsAlike_resembles_eq concurs opens kinds fun sql kind _ _ same => ?_
    exact congrArg (fun complaint => Notice.failed sql kind complaint.message) same
  exact runs.actsAlike (shows_whole rfl) (fun change _ _ same => same.bound change) rfl rfl
    (fun _ _ same => congrArg Fault.escapes same) (fun _ _ same => congrArg Fault.text same)
    fun notice _ _ _ same _ _ resembles => resembles.noted (congrArg notice same)

end Database

namespace Script.Errand

open DataLayer.Session (Resembles)

/-- Two databases that differ in their passwords, where both have one or neither has, are the same to everybody but
the engine: on engines that answer alike every program has the same results and the same faults and logs the same, and
the engines are asked for the same but for the password in the requests that open a handle. -/
theorem performAll_discreet {db : Database σ} {other : Driver τ} {password : Value}
    (concurs : db.driver.Concurs related id id Eq other) (both : db.config.password.isTruthy = password.isTruthy)
    (errands : List Errand) {s : Session σ} {t : Session τ} (same : Resembles related EngineEvent.discreet id s t) :
    let first := performAll db errands s
    let second := performAll ((db.on other).withPassword password) errands t
    first.1 = second.1 ∧ first.2.log = second.2.log ∧
      Resembles related EngineEvent.discreet id first.2 second.2 := by
  have acts (now : Moment) : ({ db with now } : Database σ).ActsAlike { (db.on other).withPassword password with now }
      (Resembles related EngineEvent.discreet id) id id :=
    Database.servesAlike_discreet concurs both
  obtain ⟨results, after⟩ := performAll_couples acts errands same
  have whole : seen id id = id := funext seen_id
  rw [whole, List.map_id_fun] at results
  exact ⟨results, after.log_eq, after⟩

/-- A server that refuses a row inside a block, is asked for its target, and is then let go. -/
theorem performAll_discreet_refused :
    let now : Moment := ⟨⟨2025, 1, 1⟩, ⟨0, 0, 0, 0, none⟩⟩
    let config : Config := { username := .text "app", password := .text "open sesame" }
    let db : Database Unit := { kind := .mysql, config, now, driver := Job.grumbling "Duplicate entry for key 'email'" }
    let password : Value := .text "abracadabra"
    let step (name : String) (args : List Value) : Errand := .job now (.database (.call { name, args }))
    let insert : Value := .text "INSERT INTO users (email) VALUES (NULL)"
    let things : Job := .schema (.create (.text "things") [])
    let errands : List Errand :=
      [.within now [step "describe" [], step "execute" [insert]], .job now things, step "connect" [], step "disconnect" []]
    let s : Session Unit := { engine := () }
    let first := performAll db errands s
    let second := performAll ((db.on db.driver).withPassword password) errands s
    db.driver.Concurs Eq id id Eq db.driver ∧ db.config.password.isTruthy = password.isTruthy ∧
      Resembles Eq EngineEvent.discreet id s s ∧
      first.1 = second.1 ∧ first.2.log = second.2.log ∧ Resembles Eq EngineEvent.discreet id first.2 second.2 := by
  intro now config db password step insert things errands s
  have concurs : db.driver.Concurs Eq id id Eq db.driver := db.driver.concurs_self
  have both : db.config.password.isTruthy = password.isTruthy := rfl
  have same : Resembles Eq EngineEvent.discreet id s s := ⟨rfl, rfl, rfl, rfl, rfl, rfl⟩
  clear_value db errands s
  exact ⟨concurs, both, same, performAll_discreet concurs both errands same⟩

end Script.Errand
end DataLayer
