import DataLayer.Engine.Driver
import DataLayer.Engine.Ledger
import DataLayer.Text.Blank

/-! An engine that answers by a script, for trying out what is sent to it.

An answer is looked for among the rules, then in the ledger, then at the head of the script; when
none of these has one the default is given. -/

namespace DataLayer.Scripted

open DataLayer.Text

/-- The point of a statement at which a complaint comes up. -/
inductive Point where
  | openCursor | execute | fetchAll | commit
deriving DecidableEq, Repr

/-- A prepared answer: a result, or a complaint that comes up at some point. -/
structure Response where
  columns : List String := []
  rows : List (List Value) := []
  rowcount : Value := .int 0
  lastrowid : Value := .null
  complaint : Option (Point × EngineFault) := none

/-- An answer to every statement that contains a text, for so many times or for ever. -/
structure Rule where
  fragment : String
  times : Option Nat := none
  response : Response

/-- The state of a scripted engine. `pending` are the rows of the statement that was run last,
or the complaint about fetching them, and `atCommit` is the complaint that the next commit meets. -/
structure Engine where
  connectFaults : List (Option EngineFault) := []
  setupFaults : List (Option EngineFault) := []
  rules : List Rule := []
  ledger : Option Ledger := none
  script : List Response := []
  fallback : Response := {}
  pending : Except EngineFault (List (List Value)) := .ok []
  atCommit : Option EngineFault := none

/-- The complaint of a response at a point. -/
def Response.complaintAt? (response : Response) (point : Point) : Option EngineFault :=
  match response.complaint with
  | some (place, fault) => if place = point then some fault else none
  | none => none

private def raise {σ : Type} (fault? : Option EngineFault) (engine : σ) :
    Except EngineFault Unit × σ :=
  match fault? with
  | some fault => (.error fault, engine)
  | none => (.ok (), engine)

/-- Takes the next complaint about connecting. -/
def connect (engine : Engine) : Except EngineFault Unit × Engine :=
  match engine.connectFaults with
  | [] => (.ok (), engine)
  | fault? :: rest => raise fault? { engine with connectFaults := rest }

/-- Takes the next complaint about the preparation of a connection. -/
def setup (engine : Engine) : Except EngineFault Unit × Engine :=
  match engine.setupFaults with
  | [] => (.ok (), engine)
  | fault? :: rest => raise fault? { engine with setupFaults := rest }

/-- Opens a cursor, unless the head of the script refuses that. -/
def openCursor (engine : Engine) : Except EngineFault Unit × Engine :=
  match engine.script with
  | [] => (.ok (), engine)
  | response :: rest =>
    match response.complaintAt? .openCursor with
    | some fault => (.error fault, { engine with script := rest })
    | none => (.ok (), engine)

/-- The rules after the first one that fits a statement was used, and its answer. -/
def useRule (sql : List Char) : List Rule → Option (Response × List Rule)
  | [] => none
  | rule :: rest =>
    if rule.times != some 0 && containsChars rule.fragment.toList sql then
      some (rule.response, { rule with times := rule.times.map (· - 1) } :: rest)
    else (useRule sql rest).map fun used => (used.1, rule :: used.2)

/-- What the ledger answers to the three statements that it knows. -/
def useLedger (sql : String) (params : List Value) (ledger : Ledger) :
    Option (Response × Ledger) :=
  if sql = Ledger.selectSql then
    let rows := ledger.sorted.map fun row => [row.id, row.migration, row.createdAt]
    some ({ columns := ["id", "migration", "created_at"], rows }, ledger)
  else if sql = Ledger.insertSql then
    let (id, ledger) := ledger.insert (params.getD 0 .null) (params.getD 1 .null)
    some ({ rowcount := .int 1, lastrowid := .int id }, ledger)
  else if sql = Ledger.deleteSql then some ({}, ledger.delete (params.getD 0 .null))
  else none

/-- Takes the next answer of the script. -/
def useScript (engine : Engine) : Response × Engine :=
  match engine.script with
  | response :: script => (response, { engine with script })
  | [] => (engine.fallback, engine)

/-- Finds the answer to a statement. Rules and the ledger know statements that are texts. -/
def respond (sql : Value) (params : List Value) (engine : Engine) : Response × Engine :=
  match sql.text? with
  | none => useScript engine
  | some sql =>
    match useRule sql.toList engine.rules with
    | some (response, rules) => (response, { engine with rules })
    | none =>
      match engine.ledger.bind (useLedger sql params) with
      | some (response, ledger) => (response, { engine with ledger := some ledger })
      | none => useScript engine

/-- Runs a statement. -/
def execute (sql : Value) (params : List Value) (engine : Engine) :
    Except EngineFault Answer × Engine :=
  let (response, engine) := respond sql params engine
  match response.complaintAt? .execute with
  | some fault => (.error fault, engine)
  | none =>
    let pending := match response.complaintAt? .fetchAll with
      | some fault => .error fault
      | none => .ok response.rows
    let atCommit := (response.complaintAt? .commit).or engine.atCommit
    (.ok { columns := response.columns, rowcount := response.rowcount,
           lastrowid := response.lastrowid },
      { engine with pending, atCommit })

/-- Commits, unless the statement run last forbids it. -/
def commit (engine : Engine) : Except EngineFault Unit × Engine :=
  raise engine.atCommit { engine with atCommit := none }

/-- The scripted engine as a driver. -/
def driver : Driver Engine where
  connect := connect
  setup _ := setup
  openCursor _ := openCursor
  execute := execute
  fetchAll engine := (engine.pending, engine)
  commit := commit
  rollback engine := engine

end DataLayer.Scripted
