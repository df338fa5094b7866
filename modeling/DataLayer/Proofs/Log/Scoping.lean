import DataLayer.Fault.Basic
import DataLayer.Log.Journal
import DataLayer.Proofs.Entries

/-! Blocks that bind fields to the context of the log. Leaving a block takes the names out of the context that it bound,
and with them what was bound to these names before. Main statement: after work in blocks the context is without the
names of the blocks that were left, and every entry is written with what these blocks have left over; where no block
binds a name that is bound around it, the context is as before and entries are written with what the innermost block
around them binds. -/

namespace DataLayer

/-! What is bound under a key. -/

namespace LogContext

variable {context : LogContext} {names : List String} {fields : List (String × Value)}

theorem get?_bind (key : String) (fields : List (String × Value)) (context : LogContext) :
    Entries.get? key (bind fields context) = (Entries.get? key fields.reverse).or (Entries.get? key context) :=
  Entries.get?_putAll key context fields

theorem get?_unbind (key : String) (names : List String) (context : LogContext) :
    Entries.get? key (unbind names context) = if key ∈ names then none else Entries.get? key context := by
  induction names generalizing context with
  | nil => rfl
  | cons name rest ih =>
    calc
      Entries.get? key (unbind (name :: rest) context) = Entries.get? key (unbind rest (Entries.erase name context)) := rfl
      _ = if key ∈ rest then none else if name == key then none else Entries.get? key context := by
        rw [ih, Entries.get?_erase]
      _ = if key ∈ name :: rest then none else Entries.get? key context := by
        by_cases same : key = name
        · simp [same]
        · simp [same, Ne.symm same]

theorem unbind_append (first second : List String) (context : LogContext) :
    unbind (first ++ second) context = unbind second (unbind first context) :=
  List.foldl_append

theorem unbind_eq_filter (names : List String) (context : LogContext) :
    unbind names context = context.filter fun entry => entry.1 ∉ names := by
  induction names generalizing context with
  | nil => simp [unbind]
  | cons name rest ih =>
    calc
      unbind (name :: rest) context = unbind rest (Entries.erase name context) := rfl
      _ = (Entries.erase name context).filter fun entry => entry.1 ∉ rest := ih _
      _ = context.filter fun entry => entry.1 ∉ name :: rest := by
        unfold Entries.erase
        rw [List.filter_filter]
        refine List.filter_congr fun entry _ => ?_
        by_cases same : entry.1 = name <;> simp [same]

/-- Only names that are bound are taken out. -/
theorem unbind_eq_self_iff : unbind names context = context ↔ ∀ name ∈ names, name ∉ Entries.keys context := by
  rw [unbind_eq_filter, List.filter_eq_self]
  constructor
  · intro all name listed bound
    obtain ⟨entry, member, rfl⟩ := List.mem_map.mp bound
    exact of_decide_eq_true (all entry member) listed
  · intro all entry member
    exact decide_eq_true fun listed => all entry.1 listed (List.mem_map_of_mem member)

theorem unbind_put {name : String} (listed : name ∈ names) (value : Value) (context : LogContext) :
    unbind names (Entries.put name value context) = unbind names context := by
  rw [unbind_eq_filter, unbind_eq_filter]
  induction context with
  | nil => simp [Entries.put, listed]
  | cons first rest ih =>
    unfold Entries.put
    split
    next same =>
      have listed' : first.1 ∈ names := beq_iff_eq.mp same ▸ listed
      simp [listed']
    next other => rw [List.filter_cons, List.filter_cons, ih]

/-- What is bound and then taken out leaves no more than what is taken out. -/
theorem unbind_bind (within : ∀ name ∈ Entries.keys fields, name ∈ names) (context : LogContext) :
    unbind names (bind fields context) = unbind names context := by
  induction fields generalizing context with
  | nil => rfl
  | cons first rest ih =>
    calc
      unbind names (bind (first :: rest) context) = unbind names (bind rest (Entries.put first.1 first.2 context)) := rfl
      _ = unbind names (Entries.put first.1 first.2 context) :=
        ih (fun name member => within name (List.mem_cons_of_mem _ member)) _
      _ = unbind names context := unbind_put (within first.1 List.mem_cons_self) _ _

end LogContext

namespace Journal

variable {journal after : Journal} {entry : LogEntry} {fields : List (String × Value)}

/-- An entry that is logged is written if it passes the threshold, and changes nothing else. -/
theorem log_ok (logged : journal.log entry = .ok after) :
    (entry.passes journal.settings = true ∧ ∃ line, journal.lineOf entry = .ok line ∧
      after = { journal with lines := journal.lines ++ [line] }) ∨
    (entry.passes journal.settings = false ∧ after = journal) := by
  unfold log at logged
  split at logged
  · cases logged
  · cases passed : entry.passes journal.settings with
    | false =>
      rw [passed] at logged
      cases logged
      exact .inr ⟨rfl, rfl⟩
    | true =>
      rw [passed, if_pos rfl] at logged
      cases written : journal.lineOf entry with
      | error misuse =>
        rw [written] at logged
        cases logged
      | ok line =>
        rw [written] at logged
        cases logged
        exact .inl ⟨rfl, line, rfl, rfl⟩

theorem enter_ok (entered : journal.enter fields = .ok after) :
    after = { journal.bind fields with blocks := Entries.keys fields :: journal.blocks } := by
  unfold enter at entered
  split at entered
  · cases entered
  · exact (Except.ok.inj entered).symm

theorem context_enter (entered : journal.enter fields = .ok after) :
    after.context = LogContext.bind fields journal.context := by
  rw [enter_ok entered]
  rfl

end Journal

namespace LogEntry

variable {key : String} {entry : LogEntry} {settings : LogSettings}

/-- The keys of an entry that are its own whatever is bound: those of its fields and of its parts. -/
def ownKeys (settings : LogSettings) (entry : LogEntry) : List String :=
  Entries.keys entry.fields ++ ["event", "level", "logger", callsName] ++ Entries.keys (stamp settings "")

theorem get?_supply (key : String) (fields additions : List (String × Value)) :
    Entries.get? key (supply fields additions) = (Entries.get? key fields).or (Entries.get? key additions) := by
  induction additions generalizing fields with
  | nil => exact (Option.or_none).symm
  | cons first rest ih =>
    have single : Entries.get? key (first :: rest) = if first.1 == key then some first.2 else Entries.get? key rest := by
      unfold Entries.get?
      rw [List.find?_cons]
      cases first.1 == key <;> rfl
    calc
      Entries.get? key (supply fields (first :: rest)) =
          Entries.get? key (supply (if Entries.contains first.1 fields then fields
            else Entries.put first.1 first.2 fields) rest) := rfl
      _ = (Entries.get? key fields).or (Entries.get? key (first :: rest)) := by
        rw [ih, single]
        by_cases same : first.1 = key
        · subst same
          split
          next there =>
            obtain ⟨value, found⟩ := Option.isSome_iff_exists.mp (Entries.get?_isSome_of_mem (Entries.contains_iff.mp there))
            rw [found, Option.some_or, Option.some_or]
          next absent =>
            rw [Entries.get?_put, Entries.get?_of_not_mem (mt Entries.contains_iff.mpr absent)]
            simp
        · have other : (first.1 == key) = false := beq_false_of_ne same
          split
          · simp [other]
          · simp [Entries.get?_put, other]

/-- What is bound shows in an entry under every key that is not its own; the service has a default. -/
theorem get?_allFields (clock : String) (context : LogContext) (other : key ∉ entry.ownKeys settings) :
    Entries.get? key (entry.allFields settings clock context) =
      (Entries.get? key context).or (if key = "service" then some settings.service else none) := by
  simp only [ownKeys, List.mem_append, List.mem_cons, List.not_mem_nil, or_false, not_or] at other
  obtain ⟨⟨field, event, level, logger, calls⟩, stamped⟩ := other
  have stamped' : key ∉ Entries.keys (stamp settings clock) := by
    have same : Entries.keys (stamp settings clock) = Entries.keys (stamp settings "") := by
      unfold stamp
      cases settings.stamped <;> rfl
    rwa [same]
  have own : Entries.get? key (Entries.putAll [] (entry.fields ++ [("event", .text entry.event)])) = none := by
    apply Entries.get?_of_not_mem
    intro member
    rcases Entries.mem_keys_putAll member with before | added
    · cases before
    · rw [Entries.keys, List.map_append] at added
      rcases List.mem_append.mp added with named | last
      · exact field named
      · exact event (List.mem_singleton.mp last)
  have timed (row : List (String × Value)) (absent : Entries.get? key row = none) :
      Entries.get? key (Entries.putAll row (stamp settings clock)) = none := by
    rw [Entries.get?_putAll, absent, Option.or_none]
    apply Entries.get?_of_not_mem
    rwa [Entries.keys, List.map_reverse, List.mem_reverse]
  have placed (row : List (String × Value)) : Entries.get? key (Entries.putAll row
      [("level", .text entry.level.name), ("logger", .text entry.logger)]) = Entries.get? key row := by
    rw [Entries.get?_putAll, Entries.get?_of_not_mem (by simp [Entries.keys, level, logger]), Option.none_or]
  have service : Entries.get? key [("service", settings.service)] = if key = "service" then some settings.service else none := by
    by_cases same : key = "service"
    · simp [Entries.get?, same]
    · simp [Entries.get?, same, Ne.symm same]
  unfold allFields
  rw [get?_supply, Entries.get?_erase, beq_false_of_ne (Ne.symm calls), if_neg Bool.false_ne_true, placed, get?_supply,
    timed _ own, Option.none_or, service]

end LogEntry

/-- Work that is logged: entries, failures, work after work, work whose failure is caught, and blocks that bind fields
while the work inside them goes on. -/
inductive LogWork where
  | nothing
  | log (entry : LogEntry)
  | fail (fault : Fault)
  | follow (first second : LogWork)
  | attempt (work : LogWork)
  | block (fields : List (String × Value)) (work : LogWork)

/-- A block that is open: the fields that it binds, and the names of the blocks inside it that were left. -/
structure LogFrame where
  bound : List (String × Value) := []
  left : List String := []

/-- An entry that is written, with the blocks around it, the innermost first, and the log as it was. -/
structure Sighting where
  entry : LogEntry
  frames : List LogFrame
  journal : Journal

/-- Holds of what an entry is written with under a key: what is bound to the key at that time, which also shows among the
fields of the entry unless the key is its own. -/
def Sighting.Carries (sighting : Sighting) (key : String) (value : Option Value) : Prop :=
  let { entry, journal, .. } := sighting
  Entries.get? key journal.context = value ∧
    (key ∉ entry.ownKeys journal.settings →
      Entries.get? key (entry.allFields journal.settings journal.clock journal.context) =
        value.or (if key = "service" then some journal.settings.service else none))

/-- Holds of the line that an entry is written as. -/
def Sighting.Writes (sighting : Sighting) (line : LogLine) : Prop := sighting.journal.lineOf sighting.entry = .ok line

namespace LogFrame

variable {frames : List LogFrame}

/-- Names of blocks that were left inside the innermost frame. -/
def leave (names : List String) : List LogFrame → List LogFrame
  | [] => []
  | frame :: rest => { frame with left := frame.left ++ names } :: rest

/-- What the innermost block binds to a key that binds it, or else what is bound around all of them. -/
def innermost (key : String) (around : Option Value) : List LogFrame → Option Value
  | [] => around
  | frame :: rest => (Entries.get? key frame.bound.reverse).or (innermost key around rest)

/-- What is left over under a key: nothing inside a block in which a block was left that binds it. -/
def remaining (key : String) (around : Option Value) : List LogFrame → Option Value
  | [] => around
  | frame :: rest =>
    if key ∈ frame.left then none else (Entries.get? key frame.bound.reverse).or (remaining key around rest)

theorem leave_ne_nil {names : List String} (open' : frames ≠ []) : leave names frames ≠ [] := by
  cases frames with
  | nil => exact absurd rfl open'
  | cons frame rest => exact List.cons_ne_nil _ _

theorem innermost_leave (key : String) (around : Option Value) (names : List String) :
    innermost key around (leave names frames) = innermost key around frames := by
  cases frames <;> rfl

theorem remaining_leave {key : String} {around : Option Value} {names : List String} (open' : frames ≠ []) :
    remaining key around (leave names frames) = if key ∈ names then none else remaining key around frames := by
  cases frames with
  | nil => exact absurd rfl open'
  | cons frame rest =>
    unfold leave remaining
    by_cases named : key ∈ names
    · simp [named]
    · simp [named]

end LogFrame

namespace LogWork

/-- Does the work. A block is left however the work inside it ends. -/
def perform : LogWork → Journal → Except Fault Unit × Journal
  | .nothing, journal => (.ok (), journal)
  | .log entry, journal =>
    match journal.log entry with
    | .ok after => (.ok (), after)
    | .error misuse => (.error (.misuse misuse), journal)
  | .fail fault, journal => (.error fault, journal)
  | .follow first second, journal =>
    match first.perform journal with
    | (.ok (), between) => second.perform between
    | failed => failed
  | .attempt work, journal => (.ok (), (work.perform journal).2)
  | .block fields work, journal =>
    match journal.enter fields with
    | .error misuse => (.error (.misuse misuse), journal)
    | .ok inside =>
      let (result, between) := work.perform inside
      match between.leave with
      | .ok after => (result, after)
      | .error misuse => (.error (.misuse misuse), between)

/-- The names of the blocks that are left in the course of the work. -/
def left : LogWork → Journal → List String
  | .follow first second, journal =>
    first.left journal ++ match first.perform journal with
      | (.ok (), between) => second.left between
      | (.error _, _) => []
  | .attempt work, journal => work.left journal
  | .block fields work, journal =>
    match journal.enter fields with
    | .error _ => []
    | .ok inside => work.left inside ++ Entries.keys fields
  | _, _ => []

/-- The entries that are written in the course of the work, in open blocks. -/
def seen : LogWork → List LogFrame → Journal → List Sighting
  | .log entry, frames, journal =>
    match journal.log entry with
    | .ok _ => if entry.passes journal.settings then [{ entry, frames, journal }] else []
    | .error _ => []
  | .follow first second, frames, journal =>
    first.seen frames journal ++ match first.perform journal with
      | (.ok (), between) => second.seen (LogFrame.leave (first.left journal) frames) between
      | (.error _, _) => []
  | .attempt work, frames, journal => work.seen frames journal
  | .block fields work, frames, journal =>
    match journal.enter fields with
    | .error _ => []
    | .ok inside => work.seen ({ bound := fields } :: frames) inside
  | _, _, _ => []

/-- Holds of work in which no block binds a name that is bound around it. -/
def Fresh : LogWork → List String → Prop
  | .follow first second, names => first.Fresh names ∧ second.Fresh names
  | .attempt work, names => work.Fresh names
  | .block fields work, names =>
    (∀ name ∈ Entries.keys fields, name ∉ names) ∧ work.Fresh (Entries.keys fields ++ names)
  | _, _ => True

variable {journal inside between : Journal} {fields : List (String × Value)} {names : List String}

/-- A block whose work leaves the blocks as they were is left itself. -/
theorem perform_block {work : LogWork} (entered : journal.enter fields = .ok inside)
    (kept : (work.perform inside).2.blocks = inside.blocks) :
    (block fields work).perform journal = ((work.perform inside).1,
      { (work.perform inside).2.unbind (Entries.keys fields) with blocks := journal.blocks }) := by
  have open' : (work.perform inside).2.leave =
      .ok { (work.perform inside).2.unbind (Entries.keys fields) with blocks := journal.blocks } := by
    unfold Journal.leave
    rw [kept, Journal.enter_ok entered]
  rw [perform, entered]
  dsimp only
  rw [open']

/-- After work the blocks are as before, and the context is without the names of the blocks that were left. -/
theorem perform_context (work : LogWork) (journal : Journal) : (work.perform journal).2.blocks = journal.blocks ∧
    (work.perform journal).2.context = LogContext.unbind (work.left journal) journal.context := by
  induction work generalizing journal with
  | nothing => exact ⟨rfl, rfl⟩
  | fail fault => exact ⟨rfl, rfl⟩
  | attempt work ih => exact ih journal
  | log entry =>
    rw [perform]
    cases logged : journal.log entry with
    | error misuse => exact ⟨rfl, rfl⟩
    | ok after =>
      rcases Journal.log_ok logged with ⟨-, line, -, rfl⟩ | ⟨-, rfl⟩
      · exact ⟨rfl, rfl⟩
      · exact ⟨rfl, rfl⟩
  | follow first second ihFirst ihSecond =>
    obtain ⟨blocks, context⟩ := ihFirst journal
    rw [perform, left]
    cases done : first.perform journal with
    | mk result between =>
      rw [done] at blocks context
      cases result with
      | error fault =>
        dsimp only
        rw [List.append_nil]
        exact ⟨blocks, context⟩
      | ok _ =>
        obtain ⟨blocks', context'⟩ := ihSecond between
        refine ⟨blocks'.trans blocks, context'.trans ?_⟩
        rw [LogContext.unbind_append, ← context]
  | block fields work ih =>
    cases entered : journal.enter fields with
    | error misuse =>
      rw [perform, left, entered]
      exact ⟨rfl, rfl⟩
    | ok inside =>
      obtain ⟨kept, context⟩ := ih inside
      rw [perform_block entered kept, left, entered]
      refine ⟨rfl, ?_⟩
      -- The names of the block are taken out in the end, so that it does not matter that they were bound first.
      calc
        LogContext.unbind (Entries.keys fields) (work.perform inside).2.context =
            LogContext.unbind (Entries.keys fields) (LogContext.unbind (work.left inside) inside.context) := by rw [context]
        _ = LogContext.unbind (work.left inside ++ Entries.keys fields) inside.context :=
          (LogContext.unbind_append _ _ _).symm
        _ = LogContext.unbind (work.left inside ++ Entries.keys fields) (LogContext.bind fields journal.context) := by
          rw [Journal.enter_ok entered]
          rfl
        _ = LogContext.unbind (work.left inside ++ Entries.keys fields) journal.context :=
          LogContext.unbind_bind (fun name member => List.mem_append_right _ member) _

/-- The lines that are written in the course of the work are those of the entries that are seen. -/
theorem perform_lines (work : LogWork) (frames : List LogFrame) (journal : Journal) :
    ∃ lines, (work.perform journal).2.lines = journal.lines ++ lines ∧
      List.Forall₂ Sighting.Writes (work.seen frames journal) lines := by
  induction work generalizing frames journal with
  | nothing => exact ⟨[], (List.append_nil _).symm, .nil⟩
  | fail fault => exact ⟨[], (List.append_nil _).symm, .nil⟩
  | attempt work ih => exact ih frames journal
  | log entry =>
    rw [perform, seen]
    cases logged : journal.log entry with
    | error misuse => exact ⟨[], (List.append_nil _).symm, .nil⟩
    | ok after =>
      rcases Journal.log_ok logged with ⟨passed, line, written, rfl⟩ | ⟨held, rfl⟩
      · refine ⟨[line], rfl, ?_⟩
        dsimp only
        rw [if_pos passed]
        exact .cons written .nil
      · refine ⟨[], (List.append_nil _).symm, ?_⟩
        dsimp only
        rw [held, if_neg Bool.false_ne_true]
        exact .nil
  | follow first second ihFirst ihSecond =>
    obtain ⟨lines, written, each⟩ := ihFirst frames journal
    rw [perform, seen]
    cases done : first.perform journal with
    | mk result between =>
      rw [done] at written
      cases result with
      | error fault =>
        refine ⟨lines, written, ?_⟩
        dsimp only
        rwa [List.append_nil]
      | ok _ =>
        obtain ⟨others, written', each'⟩ := ihSecond (LogFrame.leave (first.left journal) frames) between
        refine ⟨lines ++ others, ?_, List.rel_append each each'⟩
        rw [written', written, List.append_assoc]
  | block fields work ih =>
    cases entered : journal.enter fields with
    | error misuse =>
      rw [perform, seen, entered]
      exact ⟨[], (List.append_nil _).symm, .nil⟩
    | ok inside =>
      obtain ⟨lines, written, each⟩ := ih ({ bound := fields } :: frames) inside
      rw [perform_block entered (perform_context work inside).1, seen, entered]
      refine ⟨lines, ?_, each⟩
      change (work.perform inside).2.lines = _
      rw [written, Journal.enter_ok entered]
      rfl

/-- What holds of work with the blocks around it, and passes to the work inside, holds of every entry that is seen. -/
theorem seen_all (Good : LogWork → List LogFrame → Journal → Prop)
    (caught : ∀ {work frames journal}, Good (.attempt work) frames journal → Good work frames journal)
    (first : ∀ {one two frames journal}, Good (.follow one two) frames journal → Good one frames journal)
    (second : ∀ {one two frames journal between}, Good (.follow one two) frames journal →
      one.perform journal = (.ok (), between) → Good two (LogFrame.leave (one.left journal) frames) between)
    (inner : ∀ {fields work frames journal inside}, Good (.block fields work) frames journal →
      journal.enter fields = .ok inside → Good work ({ bound := fields } :: frames) inside)
    {work : LogWork} {frames : List LogFrame} (good : Good work frames journal) :
    ∀ sighting ∈ work.seen frames journal, Good (.log sighting.entry) sighting.frames sighting.journal := by
  induction work generalizing frames journal with
  | nothing => exact nofun
  | fail fault => exact nofun
  | attempt work ih => exact ih (caught good)
  | log entry =>
    intro sighting member
    rw [seen] at member
    split at member
    · split at member
      · obtain rfl := List.mem_singleton.mp member
        exact good
      · cases member
    · cases member
  | follow one two ihOne ihTwo =>
    intro sighting member
    rw [seen] at member
    rcases List.mem_append.mp member with here | later
    · exact ihOne (first good) sighting here
    · split at later
      next between done => exact ihTwo (second good done) sighting later
      next => cases later
  | block fields work ih =>
    intro sighting member
    rw [seen] at member
    split at member
    · cases member
    next inside entered => exact ih (inner good entered) sighting member

/-- Holds while what is bound is what the open blocks have left over. -/
def BoundAsLeft (around : String → Option Value) (_ : LogWork) (frames : List LogFrame) (journal : Journal) : Prop :=
  frames ≠ [] ∧ ∀ key, Entries.get? key journal.context = LogFrame.remaining key (around key) frames

/-- Entries are seen with what the blocks around them have left over. -/
theorem seen_remaining {work : LogWork} {frames : List LogFrame} (around : String → Option Value) (open' : frames ≠ [])
    (told : ∀ key, Entries.get? key journal.context = LogFrame.remaining key (around key) frames) :
    ∀ sighting ∈ work.seen frames journal, ∀ key,
      Entries.get? key sighting.journal.context = LogFrame.remaining key (around key) sighting.frames := by
  intro sighting member
  refine (seen_all (BoundAsLeft around) id id ?_ ?_ ⟨open', told⟩ sighting member).2
  · rintro one two frames journal between ⟨open', told⟩ done
    have context := (perform_context one journal).2
    rw [done] at context
    refine ⟨LogFrame.leave_ne_nil open', fun key => ?_⟩
    rw [context, LogContext.get?_unbind, LogFrame.remaining_leave open', told]
  · rintro fields work frames journal inside ⟨open', told⟩ entered
    refine ⟨List.cons_ne_nil _ _, fun key => ?_⟩
    rw [Journal.context_enter entered, LogContext.get?_bind, told]
    rfl

/-! Work in which no block binds a name that is bound around it. -/

theorem left_apart {work : LogWork} (fresh : work.Fresh names) : ∀ name ∈ work.left journal, name ∉ names := by
  induction work generalizing journal names with
  | nothing => exact nofun
  | fail fault => exact nofun
  | log entry => exact nofun
  | attempt work ih => exact ih fresh
  | follow first second ihFirst ihSecond =>
    intro name member
    rw [left] at member
    rcases List.mem_append.mp member with here | later
    · exact ihFirst fresh.1 name here
    · split at later
      · exact ihSecond fresh.2 name later
      · cases later
  | block fields work ih =>
    intro name member
    rw [left] at member
    split at member
    · cases member
    · rcases List.mem_append.mp member with inner | own
      · exact fun bound => ih fresh.2 name inner (List.mem_append_right _ bound)
      · exact fresh.1 name own

theorem perform_fresh {work : LogWork} (fresh : work.Fresh names)
    (within : ∀ name ∈ Entries.keys journal.context, name ∈ names) :
    (work.perform journal).2.context = journal.context := by
  rw [(perform_context work journal).2]
  exact LogContext.unbind_eq_self_iff.mpr fun name member bound => left_apart fresh name member (within name bound)

/-- Holds while what is bound is what the innermost blocks bind, before work that binds none of these names again. -/
def BoundAround (around : String → Option Value) (work : LogWork) (frames : List LogFrame) (journal : Journal) : Prop :=
  ∃ names, work.Fresh names ∧ (∀ name ∈ Entries.keys journal.context, name ∈ names) ∧
    ∀ key, Entries.get? key journal.context = LogFrame.innermost key (around key) frames

/-- Entries are seen with what the innermost block around them binds. -/
theorem seen_innermost {work : LogWork} {frames : List LogFrame} (around : String → Option Value)
    (fresh : work.Fresh names) (within : ∀ name ∈ Entries.keys journal.context, name ∈ names)
    (told : ∀ key, Entries.get? key journal.context = LogFrame.innermost key (around key) frames) :
    ∀ sighting ∈ work.seen frames journal, ∀ key,
      Entries.get? key sighting.journal.context = LogFrame.innermost key (around key) sighting.frames := by
  intro sighting member
  have good : BoundAround around (.log sighting.entry) sighting.frames sighting.journal := by
    refine seen_all (BoundAround around) id ?_ ?_ ?_ ⟨names, fresh, within, told⟩ sighting member
    · rintro one two frames journal ⟨names, fresh, told⟩
      exact ⟨names, fresh.1, told⟩
    · rintro one two frames journal between ⟨names, fresh, within, told⟩ done
      have context := perform_fresh fresh.1 within
      rw [done] at context
      refine ⟨names, fresh.2, by rwa [context], fun key => ?_⟩
      rw [context, LogFrame.innermost_leave, told]
    · rintro fields work frames journal inside ⟨names, fresh, within, told⟩ entered
      refine ⟨_, fresh.2, fun name member => ?_, fun key => ?_⟩
      · rw [Journal.context_enter entered] at member
        rcases Entries.mem_keys_putAll member with before | own
        · exact List.mem_append_right _ (within name before)
        · exact List.mem_append_left _ own
      · rw [Journal.context_enter entered, LogContext.get?_bind, told]
        rfl
  obtain ⟨-, -, -, told⟩ := good
  exact told

theorem carries (sighting : Sighting) (key : String) :
    sighting.Carries key (Entries.get? key sighting.journal.context) :=
  ⟨rfl, LogEntry.get?_allFields _ _⟩

/-- After work in blocks, however it ends, the open blocks are as before and the context is without the names of the
blocks that were left; it is the same exactly when none of these names was bound. Each entry that is written carries what
the blocks around it have left over of what they bind. Where no block binds a name that is bound around it, the context
is the same as before, and each entry carries under every key what the innermost block around it binds that binds the
key, or else what is bound around all of them. -/
theorem perform_scopes (work : LogWork) (journal : Journal) :
    let after := (work.perform journal).2
    let sightings := work.seen [{}] journal
    let around (key : String) := Entries.get? key journal.context
    after.blocks = journal.blocks ∧
    (∀ key, Entries.get? key after.context = if key ∈ work.left journal then none else around key) ∧
    (after.context = journal.context ↔ ∀ name ∈ work.left journal, name ∉ Entries.keys journal.context) ∧
    (∃ lines, after.lines = journal.lines ++ lines ∧ List.Forall₂ Sighting.Writes sightings lines) ∧
    (∀ sighting ∈ sightings, ∀ key, sighting.Carries key (LogFrame.remaining key (around key) sighting.frames)) ∧
    (work.Fresh (Entries.keys journal.context) → after.context = journal.context ∧
      ∀ sighting ∈ sightings, ∀ key, sighting.Carries key (LogFrame.innermost key (around key) sighting.frames)) := by
  intro after sightings around
  obtain ⟨blocks, context⟩ := perform_context work journal
  have open' : [({} : LogFrame)] ≠ [] := List.cons_ne_nil _ _
  refine ⟨blocks, fun key => ?_, ?_, perform_lines work [{}] journal, fun sighting member key => ?_,
    fun fresh => ⟨perform_fresh fresh fun _ => id, fun sighting member key => ?_⟩⟩
  · unfold after
    rw [context, LogContext.get?_unbind]
  · unfold after
    rw [context]
    exact LogContext.unbind_eq_self_iff
  · rw [← seen_remaining around open' (fun _ => rfl) sighting member key]
    exact carries sighting key
  · rw [← seen_innermost around fresh (fun _ => id) (fun _ => rfl) sighting member key]
    exact carries sighting key

/-- A migration that is caught when it fails, in a block of its own inside the block of a run. -/
theorem perform_scopes_nested :
    let said (event : String) : LogWork := .log { level := .info, event, logger := "app" }
    let work : LogWork := .follow
      (.block [("run", .text "r1")] (.follow
        (.attempt (.block [("migration", .text "a.py")] (.follow (said "started") (.fail (.raised "RuntimeError" (.text "no"))))))
        (said "stopped")))
      (said "ended")
    let journal : Journal := { settings := {}, clock := "", context := [("app", .text "shop")] }
    work.Fresh (Entries.keys journal.context) ∧ (work.perform journal).2.context = journal.context ∧
      (work.seen [{}] journal).map (fun sighting => sighting.entry.event) = ["started", "stopped", "ended"] ∧
      ∀ sighting ∈ work.seen [{}] journal, ∀ key, sighting.Carries key
        (LogFrame.innermost key (Entries.get? key journal.context) sighting.frames) := by
  intro said work journal
  have fresh : work.Fresh (Entries.keys journal.context) := by
    simp [work, said, Fresh, Entries.keys, journal]
  obtain ⟨-, -, -, -, -, innermost⟩ := perform_scopes work journal
  have events : (work.seen [{}] journal).map (fun sighting => sighting.entry.event) = ["started", "stopped", "ended"] := by
    decide +kernel
  exact ⟨fresh, (innermost fresh).1, events, (innermost fresh).2⟩

/-- What is bound to a name is lost when a block is left that binds the name again: to the context, and to an entry that
is still in a block that binds it. -/
theorem perform_forgets :
    let again : LogWork := .block [("migration", .text "m.py")] .nothing
    let bound : Journal := { settings := {}, clock := "", context := [("migration", .text "outer")] }
    let work : LogWork := .block [("migration", .text "outer")]
      (.follow again (.log { level := .info, event := "migration.applied", logger := "app" }))
    (again.perform bound).2.context ≠ bound.context ∧
      ∃ sighting ∈ work.seen [{}] { settings := {}, clock := "" },
        LogFrame.innermost "migration" none sighting.frames = some (.text "outer") ∧
          Entries.get? "migration" sighting.journal.context = none := by
  intro again bound work
  have lost : (again.perform bound).2.context = [] := rfl
  refine ⟨?_, _, List.mem_singleton_self _, rfl, rfl⟩
  rw [lost]
  nofun

end LogWork

end DataLayer
