import DataLayer.Database.Basic
import DataLayer.Zone.Offset

/-! Opening and closing the handle of a database.

A fresh handle is prepared by one statement: an embedded database is told to watch foreign keys, a
server is told the offset of the session. -/

namespace DataLayer.Database

variable {σ : Type}

/-- The complaint about a value that is no text in the place of the name of a zone. -/
def zoneComplaint : Value → Misuse
  | .list _ => .unsuitable "unhashable type: 'list'"
  | .map _ => .unsuitable "unhashable type: 'dict'"
  | .bytes _ => .unsuitable "Can't mix strings and bytes in path components"
  | other => .noPath other

/-- The offset of a zone as a session is told of it, at a moment in universal time. Bytes get as far
as a text does when they are in no normal form. -/
def zoneOffset (zone : Value) (moment : Int) : Except Fault String :=
  let unknown (cause : Cause) : Except Fault String :=
    refuse { kind := .config, message := .text ("Unknown timezone: " ++ zone.quoted),
             cause := some cause }
  match zone.text? with
  | none =>
    match zone with
    | .bytes row =>
      if Zone.isNormal (String.ofList (row.map fun byte => Char.ofNat byte.toNat)) then
        .error (.misuse (zoneComplaint zone))
      else unknown .unreadableZone
    | other => .error (.misuse (zoneComplaint other))
  | some name =>
    match Zone.find name with
    | .unknown => unknown .unknownZone
    | .unreadable => unknown .unreadableZone
    | .group => .error (.misuse (.isADirectory name))
    | .tooLong => .error (.misuse (.nameTooLong name))
    | .noGroup path => .error (.misuse (.unsuitable
        (Text.quoted (".".intercalate ("tzdata.zoneinfo" :: path)) ++ " is not a package")))
    | .found clock =>
      let offset := clock.offsetAt moment
      if Zone.inCalendar moment && Zone.inCalendar (moment + offset) then
        .ok (Zone.sessionText offset)
      else .error (.misuse (.tooLarge "date value out of range"))

/-- The first second of the second day of the calendar. Moments without an offset of their own
that lie before it have no place in universal time. -/
def firstPlaced : Int := 86400 * Date.dayNumber ⟨1, 1, 2⟩

/-- The offset of a zone at a given moment or now. A moment without an offset of its own is in
universal time, and so is the clock. -/
def utcOffset (zone : Value) (at? : Option Moment) (now : Moment) : Except Fault String :=
  match at? with
  | none => zoneOffset zone now.seconds
  | some moment =>
    match moment.time.offset with
    | some offset => zoneOffset zone ((moment.micros - offset) / 1000000)
    | none =>
      -- The zone is looked up first.
      match zoneOffset zone (max firstPlaced moment.seconds) with
      | .error fault => .error fault
      | .ok text =>
        if moment.seconds < firstPlaced then
          .error (.misuse (.unreadable "year 0 is out of range"))
        else .ok text

/-- Holds when a path is a locator rather than the name of a file. -/
def isLocator (path : Value) : Except Misuse Bool :=
  match path.text? with
  | some text => .ok ("file:".isPrefixOf text)
  | none =>
    match path with
    | .bytes _ => .error (.unsuitable
        "startswith first arg must be bytes or a tuple of bytes, not str")
    | other => .error (.noSuchMember other.kindName "startswith")

/-- Ends a failed attempt to connect: complaints of the engine become a report. -/
def connectionFailed {α : Type} (engine : String) (fault : EngineFault) : Action σ α :=
  if fault.kind.isDriverError then
    Action.refuse
      { kind := .connection,
        message := .text ("Failed to connect to " ++ engine ++ ": " ++ fault.message),
        cause := some (.words fault.message) }
  else Action.fail (.engine fault)

/-- The statement that prepares the handle of an embedded database. -/
def embeddedSetup : String := "PRAGMA foreign_keys = ON"

/-- Opens an embedded database. A handle whose preparation fails is kept, unconnected. -/
def connectEmbedded (db : Database σ) : Action σ Unit := do
  let path := db.config.embeddedPath
  let locator ← Action.check (isLocator path)
  let opened ← Action.ofState (Session.send
    (.connect .sqlite [("path", path), ("timeout", db.timeout),
      ("check_same_thread", .bool false), ("uri", .bool locator)]) db.driver.connect)
  match opened with
  | .error fault => connectionFailed "SQLite" fault
  | .ok () =>
    modify fun s => { s with held := true }
    let prepared ← Action.ofState
      (Session.send (.setup embeddedSetup) (db.driver.setup embeddedSetup))
    match prepared with
    | .error fault => connectionFailed "SQLite" fault
    | .ok () =>
      modify fun s => { s with connected := true }
      Action.note (.connected .sqlite db.target none)

/-- The keywords that a server connection is opened with, before the options. -/
def serverKeywords (c : Config) : List (String × Value) :=
  [("host", c.host), ("port", c.port), ("database", c.database), ("user", c.username),
    ("password", c.password), ("charset", c.charset), ("connection_timeout", c.connectTimeout),
    ("autocommit", .bool false)]

/-- The statement that prepares the handle of a server. -/
def serverSetup (offset : String) : String := "SET time_zone = '" ++ offset ++ "'"

/-- Prepares the handle of a server on a cursor of its own, which is closed in any case. -/
def prepareServer (db : Database σ) (offset : String) :
    StateM (Session σ) (Except EngineFault Unit) := do
  match ← Session.send (.openCursor false) (db.driver.openCursor false) with
  | .error fault => return .error fault
  | .ok () =>
    let prepared ←
      Session.send (.setup (serverSetup offset)) (db.driver.setup (serverSetup offset))
    Session.record .closeCursor
    return prepared

/-- Gives up a handle. -/
def release : StateM (Session σ) Unit := do
  Session.record .close
  modify fun s => { s with held := false }

/-- Opens a connection to a server. A complaint of the engine closes a handle that is already
open; a failure of the machinery below it leaves the handle as it is. -/
def connectServer (db : Database σ) : Action σ Unit := do
  let offset ← Action.ofExcept (utcOffset db.config.timezone none db.now)
  let keywords := serverKeywords db.config
  match db.config.options.find? fun option => Entries.contains option.1 keywords with
  | some option => Action.fail (.misuse (.unsuitable
      ("connect() got multiple values for keyword argument '" ++ option.1 ++ "'")))
  | none =>
    let opened ← Action.ofState
      (Session.send (.connect .mysql (keywords ++ db.config.options)) db.driver.connect)
    match opened with
    | .error fault => connectionFailed "MySQL" fault
    | .ok () =>
      modify fun s => { s with held := true }
      match ← Action.ofState (prepareServer db offset) with
      | .error fault =>
        if fault.kind.isDriverError then Action.ofState release
        connectionFailed "MySQL" fault
      | .ok () =>
        modify fun s => { s with connected := true }
        Action.note (.connected .mysql db.target (some offset))

/-- Opens the connection; does nothing while a handle is held. -/
def connect (db : Database σ) : Action σ Unit := do
  if (← get).held then return ()
  match db.kind with
  | .sqlite => connectEmbedded db
  | .mysql => connectServer db

/-- Closes the connection. -/
def disconnect (db : Database σ) : Action σ Unit := do
  if (← get).held then
    Action.ofState release
    modify fun s => { s with connected := false }
  else if db.kind = .mysql then modify fun s => { s with connected := false }

/-- Runs some work on an open connection and closes it afterwards, whether the work failed or
not. -/
def within {α : Type} (db : Database σ) (work : Action σ α) : Action σ α := do
  connect db
  ExceptT.mk (do
    let result ← work.run
    match ← (disconnect db).run with
    | .ok () => return result
    | .error fault => return .error fault)

end DataLayer.Database
