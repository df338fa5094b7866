import DataLayer.Proofs.Fault
import DataLayer.Proofs.Fault.Context

/-! Reports that are made one after the other, on shared contexts or on contexts of their own. Main statement: a report on
a context of its own tells of every name that is not the context's own what was given to it last, and tells nothing any
more once it was given the name under which its context is asked. -/

namespace DataLayer

/-! Requests. -/

namespace FaultRequest

/-- A request for the same fault, to which nothing is given. -/
def bare (request : FaultRequest) : FaultRequest := { request with additions := [] }

/-- What is given to the context of a report, call by call. -/
def given (request : FaultRequest) : List (String × Value) := request.additions.flatten

/-- The value that was given last under a name. -/
def lastGiven? (request : FaultRequest) (name : String) : Option Value := Entries.get? name request.given.reverse

/-- The value of a field that a report was made with. -/
def shortcut? (request : FaultRequest) (name : String) : Option Value :=
  if name ∈ Context.fieldNames then (Entries.get? name request.named).bind Context.known else none

/-- What the context of a report has to tell of a name: nothing where the name is the context's own, and otherwise the
value that was given last, or else the field that the report was made with. -/
def told? (request : FaultRequest) (name : String) : Option Value :=
  if name ∈ Context.ownNames then none else (request.lastGiven? name).or (request.shortcut? name)

end FaultRequest

namespace Files

open Context Script.Signature

variable {files : Files} {c : Context} {name : String} {told : String → Option Value} {request : FaultRequest}
  {report : Report} {slot : Slot}

theorem takeNamed_ok {s : Script.Signature} {start bound : Bound} {named : List (String × Value)}
    (closed : s.open? = false) (taken : takeNamed s start named = .ok bound) : bound.values = start.values ++ named := by
  induction named generalizing start with
  | nil =>
    cases taken
    exact (List.append_nil _).symm
  | cons first rest ih =>
    rw [takeNamed] at taken
    split at taken
    · split at taken
      · cases taken
      · rw [ih taken, List.append_assoc]
        rfl
    · rw [closed, if_neg Bool.false_ne_true] at taken
      cases taken

/-- What is given by name alone is bound as it is. -/
theorem bind_ok {s : Script.Signature} {bound : Bound} {named : List (String × Value)} (closed : s.open? = false)
    (taken : s.bind [] named = .ok bound) : bound.values = named := by
  unfold Script.Signature.bind at taken
  obtain ⟨all, found, taken⟩ := Fault.bind_eq_ok.mp taken
  have values : all.values = named := by
    rw [takeNamed_ok closed found, List.zip_nil_right, List.nil_append]
  split at taken
  · cases taken
  · dsimp only at taken
    split at taken
    · exact Except.ok.inj taken ▸ values
    · cases taken

theorem setGiven_ok (bound : Bound) (field : name ∈ fieldNames) (tells : c.Tells told) :
    ∃ c', setGiven name bound c = .ok c' ∧ c'.hidden = c.hidden ∧
      c'.Tells fun other => if other = name then ((bound.get? name).bind known).or (told other) else told other := by
  have idle : ∀ other, told other = if other = name then (Option.none : Option Value).or (told other) else told other := by
    intro other
    split <;> rfl
  unfold setGiven
  cases found : bound.get? name with
  | none => exact ⟨c, rfl, rfl, tells.congr idle⟩
  | some value =>
    by_cases something : value = .null
    · subst something
      exact ⟨c, rfl, rfl, tells.congr idle⟩
    · have foreign : name ∉ ownNames ∧ name ∉ "__dict__" :: fixedNames :=
        (by decide : ∀ name ∈ fieldNames, name ∉ ownNames ∧ name ∉ "__dict__" :: fixedNames) name field
      obtain ⟨next, set, hidden, tells⟩ := tells.set_ok something foreign.2
      rw [List.filter_cons_of_neg (by simpa using foreign.1), List.filter_nil, List.append_nil] at hidden
      rw [if_neg foreign.1] at tells
      refine ⟨next, ?_, hidden, tells.congr fun other => ?_⟩
      · cases value with
        | null => exact absurd rfl something
        | _ => exact set
      · rw [Function.update_apply, Option.bind_some, known_of_ne something, Option.some_or]

/-- A report that is made on a context of its own has to tell what it was made with. -/
theorem draftReport_tells (fresh : files.contextAt slot = {}) (drafted : draftReport files kind request slot = .ok (report, c)) :
    c.hidden = [] ∧ c.Tells request.shortcut? := by
  unfold draftReport at drafted
  obtain ⟨_, -, drafted⟩ := Fault.bind_eq_ok.mp drafted
  obtain ⟨_, -, drafted⟩ := Fault.bind_eq_ok.mp drafted
  obtain ⟨bound, taken, drafted⟩ := Fault.bind_eq_ok.mp drafted
  obtain ⟨first, table, drafted⟩ := Fault.bind_eq_ok.mp drafted
  obtain ⟨second, sql, drafted⟩ := Fault.bind_eq_ok.mp drafted
  obtain ⟨third, migration, drafted⟩ := Fault.bind_eq_ok.mp drafted
  have new : (files.contextAt slot).Tells fun _ => none := fresh ▸ tells_new
  obtain ⟨_, table', hidden, tells⟩ := setGiven_ok bound (by decide : "table" ∈ fieldNames) new
  cases table.symm.trans table'
  obtain ⟨_, sql', hidden', tells⟩ := setGiven_ok bound (by decide : "sql" ∈ fieldNames) tells
  cases sql.symm.trans sql'
  obtain ⟨_, migration', hidden'', tells⟩ := setGiven_ok bound (by decide : "migration" ∈ fieldNames) tells
  cases migration.symm.trans migration'
  cases drafted
  refine ⟨by rw [hidden'', hidden', hidden, fresh], tells.congr fun name => ?_⟩
  unfold FaultRequest.shortcut? fieldNames
  rw [← bind_ok rfl taken]
  by_cases table : name = "table"
  · simp [table, Bound.get?]
  · by_cases sql : name = "sql"
    · simp [sql, Bound.get?]
    · by_cases migration : name = "migration"
      · simp [migration, Bound.get?]
      · simp [table, sql, migration]

/-- The files with a report more, after its values were given. -/
def withReport (files : Files) (report : Report) (slot : Slot) (context : Context) : Files :=
  { contexts := Entries.put slot context files.contexts, filed := files.filed ++ [.report report slot] }

/-- A report that is drafted is filed, whatever comes of the values that are given to it. -/
theorem fileReport_drafted {kind : ReportKind} (placed : files.slotFor request.context = .ok slot)
    (drafted : files.draftReport kind request slot = .ok (report, c)) :
    files.fileReport kind request =
      (Misuse.lift ((addCalls c request.additions).1.map fun _ => Filed.report report slot),
        files.withReport report slot (addCalls c request.additions).2) := by
  simp only [fileReport, placed, drafted, Bind.bind, Except.bind]
  rfl

theorem fileReport_cases (files : Files) (kind : ReportKind) (request : FaultRequest) :
    (∃ misuse, files.fileReport kind request = (.error (.misuse misuse), files)) ∨
      ∃ slot report context, files.slotFor request.context = .ok slot ∧
        files.draftReport kind request slot = .ok (report, context) := by
  cases placed : files.slotFor request.context with
  | error misuse =>
    refine .inl ⟨misuse, ?_⟩
    unfold fileReport
    rw [placed]
    rfl
  | ok slot =>
    cases drafted : files.draftReport kind request slot with
    | ok draft => exact .inr ⟨slot, draft.1, draft.2, rfl, drafted⟩
    | error misuse =>
      refine .inl ⟨misuse, ?_⟩
      simp only [fileReport, placed, drafted, Bind.bind, Except.bind]

/-- A request of another kind than a report's ends in another fault or in none. -/
theorem make_other (other : ReportKind.ofName? request.name = none) :
    (∀ report slot, (files.make request).1 ≠ .ok (.report report slot)) ∧ ((files.make request).2 = files ∨
      ∃ fault, (files.make request).2 = { files with filed := files.filed ++ [.other fault] }) := by
  unfold make
  rw [other]
  dsimp only
  cases GeneralKind.find request.name with
  | error misuse =>
    refine ⟨fun report slot made => ?_, .inl rfl⟩
    cases made
  | ok kind =>
    unfold fileGeneral
    dsimp only
    split
    · refine ⟨fun report slot made => ?_, .inr ⟨_, rfl⟩⟩
      cases made
    · refine ⟨fun report slot made => ?_, .inl rfl⟩
      cases made

theorem make_kind {kind : ReportKind} (named : ReportKind.ofName? request.name = some kind) :
    files.make request = files.fileReport kind request := by
  unfold make
  rw [named]

/-- A report that can be made is made, and then given its values. -/
theorem make_built (built : (files.make request.bare).1 = .ok (.report report slot)) :
    ∃ kind context, files.slotFor request.context = .ok slot ∧
      files.draftReport kind request slot = .ok (report, context) ∧
      files.make request =
        (Misuse.lift ((addCalls context request.additions).1.map fun _ => Filed.report report slot),
          files.withReport report slot (addCalls context request.additions).2) := by
  cases named : ReportKind.ofName? request.name with
  | none =>
    have other : ReportKind.ofName? request.bare.name = none := named
    exact absurd built ((make_other other).1 report slot)
  | some kind =>
    have named' : ReportKind.ofName? request.bare.name = some kind := named
    rw [make_kind named'] at built
    rw [make_kind named]
    rcases files.fileReport_cases kind request.bare with ⟨misuse, refused⟩ | ⟨place, draft, context, placed, drafted⟩
    · rw [refused] at built
      cases built
    · rw [fileReport_drafted placed drafted] at built
      cases built
      exact ⟨kind, context, placed, drafted, fileReport_drafted placed drafted⟩

/-! Files after requests of any kind. -/

/-- Holds of files in which the contexts of single reports belong to reports that are there. -/
def Numbered (files : Files) : Prop := ∀ number, .own number ∈ Entries.keys files.contexts → number < files.filed.length

/-- What becomes of files when a fault is asked for: one is filed or none, and at most one context changes, which is
shared or belongs to the fault. -/
inductive Grows (files : Files) : Files → Prop where
  | idle : Grows files files
  | other (fault : Fault) : Grows files { files with filed := files.filed ++ [.other fault] }
  | report (report : Report) (slot : Slot) (context : Context)
      (own : ∀ number, slot = .own number → number = files.filed.length) : Grows files (files.withReport report slot context)

theorem slotFor_own (placed : files.slotFor request.context = .ok slot) (number : Nat) (same : slot = .own number) :
    number = files.filed.length := by
  subst same
  unfold slotFor at placed
  split at placed
  · cases placed
    rfl
  · split at placed <;> cases placed

theorem make_grows (files : Files) (request : FaultRequest) : files.Grows (files.make request).2 := by
  cases named : ReportKind.ofName? request.name with
  | none =>
    rcases (make_other named).2 with same | ⟨fault, same⟩
    · rw [same]
      exact .idle
    · rw [same]
      exact .other fault
  | some kind =>
    rw [make_kind named]
    rcases files.fileReport_cases kind request with ⟨misuse, refused⟩ | ⟨slot, report, context, placed, drafted⟩
    · rw [refused]
      exact .idle
    · rw [fileReport_drafted placed drafted]
      exact .report report slot _ (slotFor_own placed)

variable {after : Files} {number : Nat}

theorem Grows.length_le (grows : files.Grows after) : files.filed.length ≤ after.filed.length := by
  cases grows with
  | idle => exact Nat.le_refl _
  | other fault => simp
  | report report slot context own => simp [withReport]

theorem Grows.numbered (grows : files.Grows after) (numbered : files.Numbered) : after.Numbered := by
  intro number member
  cases grows with
  | idle => exact numbered number member
  | other fault => exact Nat.lt_of_lt_of_le (numbered number member) (by simp)
  | report report slot context own =>
    have longer : (files.withReport report slot context).filed.length = files.filed.length + 1 := by simp [withReport]
    rw [longer]
    rcases Entries.mem_keys_put member with before | new
    · exact Nat.lt_succ_of_lt (numbered number before)
    · rw [own number new.symm]
      exact Nat.lt_succ_self _

/-- The context of a single report is changed by no later request. -/
theorem Grows.contextAt (grows : files.Grows after) (filed : number < files.filed.length) :
    after.contextAt (.own number) = files.contextAt (.own number) := by
  cases grows with
  | idle => rfl
  | other fault => rfl
  | report report slot context own =>
    have apart : slot ≠ .own number := by
      intro same
      exact Nat.lt_irrefl _ (own number same ▸ filed)
    unfold Files.contextAt withReport
    rw [Entries.get?_put, beq_false_of_ne apart, if_neg Bool.false_ne_true]

/-- Asks for faults one after the other, whatever becomes of each. -/
def makeAll (files : Files) (requests : List FaultRequest) : Files :=
  requests.foldl (fun files request => (files.make request).2) files

theorem makeAll_numbered (requests : List FaultRequest) (numbered : files.Numbered) : (files.makeAll requests).Numbered := by
  induction requests generalizing files with
  | nil => exact numbered
  | cons request rest ih => exact ih ((files.make_grows request).numbered numbered)

theorem makeAll_contextAt (requests : List FaultRequest) (filed : number < files.filed.length) :
    (files.makeAll requests).contextAt (.own number) = files.contextAt (.own number) := by
  induction requests generalizing files with
  | nil => rfl
  | cons request rest ih =>
    have grows := files.make_grows request
    exact (ih (Nat.lt_of_lt_of_le filed grows.length_le)).trans (grows.contextAt filed)

/-- At first all contexts are shared ones. -/
theorem openAll_numbered {contexts : List (String × List (String × Value))} (opened : openAll contexts = .ok files) :
    files.Numbered := by
  refine Fault.foldlM_keeps (fun {files entry next} _ numbered step => ?_) (nofun : ({} : Files).Numbered) opened
  obtain ⟨context, -, made⟩ := Fault.bind_eq_ok.mp step
  cases made
  intro number member
  rcases Entries.mem_keys_put member with before | new
  · exact numbered number before
  · cases new

end Files

namespace Report

/-- The context in a row of a report. -/
def contextIn (row : List (String × Value)) : List (Value × Value) :=
  match Entries.get? "context" row with
  | some (.map entries) => entries
  | _ => []

theorem entries_ok {r : Report} {entries : List (Value × Value)} (asked : r.context.entries = .ok entries) :
    ∃ row, r.entries = .ok row ∧ contextIn row = entries := by
  unfold Report.entries
  rw [asked]
  refine ⟨_, rfl, ?_⟩
  unfold contextIn
  cases entries with
  | nil =>
    cases r.cause with
    | none => cases r.kind.carriesEngineMessage <;> simp [Entries.get?]
    | some cause => cases cause <;> cases r.kind.carriesEngineMessage <;> simp [Entries.get?]
  | cons first rest => rfl

/-- Holds of reports with a row that tells this of each name, under the context. -/
def Tells (r : Report) (told : String → Option Value) : Prop :=
  ∃ row, r.entries = .ok row ∧ (∀ entry ∈ contextIn row, ∃ name, entry.1 = .text name) ∧
    ∀ name, Entries.get? (.text name) (contextIn row) = told name

/-- A report has a row with all that its context tells, unless the context cannot be asked for it. -/
theorem entries_tells {context : Context} {told : String → Option Value} (tells : context.Tells told) (r : Report) :
    if Context.entriesName ∈ context.hidden then
      { r with context }.entries = .error (.unsuitable "object is not callable")
    else { r with context }.Tells told := by
  split
  next lost =>
    have refused : context.entries = .error (.unsuitable "object is not callable") := by
      unfold Context.entries
      rw [if_pos (by simpa using lost)]
    unfold Report.entries
    rw [refused]
    rfl
  next kept =>
    obtain ⟨entries, listed, texts, all⟩ := tells.entries_ok kept
    obtain ⟨row, rowed, same⟩ := entries_ok (r := { r with context }) listed
    exact ⟨row, rowed, same ▸ texts, fun name => by rw [same, all]⟩

end Report

namespace Files

open Context Script.Signature

variable {files : Files} {request : FaultRequest} {report : Report} {slot : Slot}

/-- A report on a context of its own takes the values that can be given at all. -/
theorem make_given (numbered : files.Numbered) (built : (files.make request.bare).1 = .ok (.report report slot))
    (own : request.context = none) (something : ∀ entry ∈ request.given, entry.2 ≠ .null)
    (allowed : ∀ entry ∈ request.given, entry.1 ≠ receiver ∧ entry.1 ∉ "__dict__" :: fixedNames) :
    ∃ context, files.make request = (.ok (.report report slot), files.withReport report slot context) ∧
      slot = .own files.filed.length ∧ context.hidden = (Entries.keys request.given).filter ownNames.contains ∧
      context.Tells request.told? := by
  obtain ⟨kind, context, placed, drafted, made⟩ := make_built built
  rw [own] at placed
  obtain rfl : Slot.own files.filed.length = slot := Except.ok.inj placed
  have fresh : files.contextAt (.own files.filed.length) = {} := by
    unfold contextAt
    rw [Entries.get?_of_not_mem fun member => Nat.lt_irrefl _ (numbered _ member)]
    rfl
  obtain ⟨hidden, tells⟩ := draftReport_tells fresh drafted
  obtain ⟨after, added, hidden', tells'⟩ := addAll_ok tells something fun entry member => (allowed entry member).2
  have given : addCalls context request.additions = (.ok (), after) :=
    (addCalls_eq context fun entry member => (allowed entry member).1).trans added
  rw [given] at made
  rw [hidden, List.nil_append] at hidden'
  refine ⟨after, made, rfl, hidden', tells'.congr fun name => ?_⟩
  unfold FaultRequest.told?
  by_cases belongs : name ∈ ownNames
  · have apart : name ∉ fieldNames := (by decide : ∀ name ∈ ownNames, name ∉ fieldNames) name belongs
    rw [if_pos belongs, if_pos belongs]
    exact if_neg apart
  · rw [if_neg belongs, if_neg belongs]
    rfl

/-- A report is refused a value that can be given by no call. -/
theorem make_refused {entry : String × Value} (built : (files.make request.bare).1 = .ok (.report report slot))
    (member : entry ∈ request.given) (refused : entry.1 ∈ receiver :: fixedNames) :
    ∃ misuse, (files.make request).1 = .error (.misuse misuse) := by
  obtain ⟨kind, context, -, -, made⟩ := make_built built
  obtain ⟨misuse, failed⟩ := addCalls_refused member refused context
  rw [made]
  dsimp only
  rw [failed]
  exact ⟨misuse, rfl⟩

/-- Among faults that are made one after the other, some of them on shared contexts, a report with a context of its own
takes what it is given unless a name of it can be given by no call. Its context then has to tell of every name what was
given under it last, the names of fields in their fields and all others in the metadata, or else the field that it was
made with, and of nothing that belongs to the context itself. Its row tells the same; but once the name was given under
which a context is asked for its entries, there is no row any more. No fault that is made later changes this. -/
theorem make_tells {shared : List (String × List (String × Value))} {start : Files} {earlier : List FaultRequest}
    (later : List FaultRequest) (opened : openAll shared = .ok start)
    (built : ((start.makeAll earlier).make request.bare).1 = .ok (.report report slot)) (own : request.context = none)
    (something : ∀ entry ∈ request.given, entry.2 ≠ .null) (whole : "__dict__" ∉ Entries.keys request.given) :
    let made := (start.makeAll earlier).make request
    let told : Report := { report with context := (made.2.makeAll later).contextAt slot }
    (made.1 = .ok (.report report slot) ↔ ∀ name ∈ Entries.keys request.given, name ∉ receiver :: fixedNames) ∧
    ((∀ name ∈ Entries.keys request.given, name ∉ receiver :: fixedNames) → told.context.Tells request.told? ∧
      if entriesName ∈ Entries.keys request.given then told.entries = .error (.unsuitable "object is not callable")
      else told.Tells request.told?) := by
  -- Of what was made earlier only this counts: the place of the new context is still free.
  have numbered := makeAll_numbered earlier (openAll_numbered opened)
  generalize start.makeAll earlier = files at numbered built
  intro made told
  by_cases allowed : ∀ name ∈ Entries.keys request.given, name ∉ receiver :: fixedNames
  · have each : ∀ entry ∈ request.given, entry.1 ≠ receiver ∧ entry.1 ∉ "__dict__" :: fixedNames := by
      intro entry member
      have named : entry.1 ∈ Entries.keys request.given := List.mem_map_of_mem member
      obtain ⟨other, free⟩ := not_or.mp (mt List.mem_cons.mpr (allowed _ named))
      refine ⟨other, fun special => ?_⟩
      rcases List.mem_cons.mp special with same | fixed
      · exact whole (same ▸ named)
      · exact free fixed
    obtain ⟨context, taken, rfl, hidden, tells⟩ := make_given numbered built own something each
    have shown : ((files.withReport report (.own files.filed.length) context).makeAll later).contextAt
        (.own files.filed.length) = context := by
      rw [makeAll_contextAt later (by simp [withReport])]
      unfold contextAt withReport
      rw [Entries.get?_put, beq_self_eq_true, if_pos rfl]
      rfl
    have asked : entriesName ∈ context.hidden ↔ entriesName ∈ Entries.keys request.given := by
      rw [hidden, List.mem_filter]
      exact and_iff_left (by decide)
    have drawn : told = { report with context } := by
      unfold told made
      rw [taken, shown]
    refine ⟨iff_of_true (congrArg Prod.fst taken) allowed, fun _ => ?_⟩
    rw [drawn]
    exact ⟨tells, by simpa only [asked] using Report.entries_tells tells report⟩
  · refine ⟨iff_of_false ?_ allowed, fun all => absurd all allowed⟩
    simp only [not_forall, not_not] at allowed
    obtain ⟨name, named, refused⟩ := allowed
    obtain ⟨entry, member, rfl⟩ := List.mem_map.mp named
    obtain ⟨misuse, failed⟩ := make_refused built member refused
    unfold made
    rw [failed]
    nofun

/-- A migration that fails beside a job of two other faults. -/
theorem make_tells_last :
    let shared := [("job", [("table", Value.text "jobs"), ("metadata", .map [(.text "attempt", .int 9)])])]
    let earlier : List FaultRequest := [{ name := "ConfigError", message := .text "odd", context := some "job" }]
    let request : FaultRequest :=
      { name := "MigrationError", message := .text "failed",
        named := [("table", .text "users"), ("migration", .text "m.py")],
        additions := [[("attempt", .int 1), ("sql", .text "SELECT 1"), ("__doc__", .text "notes")],
          [("metadata", .text "kept"), ("attempt", .int 2), ("table", .text "posts")]] }
    let later : List FaultRequest :=
      [{ name := "SchemaError", message := .text "bad", context := some "job", additions := [[("attempt", .int 3)]] }]
    ∃ start report slot, openAll shared = .ok start ∧
      ((start.makeAll earlier).make request.bare).1 = .ok (.report report slot) ∧ request.context = none ∧
      (∀ entry ∈ request.given, entry.2 ≠ .null) ∧ "__dict__" ∉ Entries.keys request.given ∧
      ((start.makeAll earlier).make request).1 = .ok (.report report slot) ∧
      ∃ row, { report with
          context := (((start.makeAll earlier).make request).2.makeAll later).contextAt slot }.entries = .ok row ∧
        Entries.get? (.text "table") (Report.contextIn row) = some (.text "posts") ∧
        Entries.get? (.text "sql") (Report.contextIn row) = some (.text "SELECT 1") ∧
        Entries.get? (.text "migration") (Report.contextIn row) = some (.text "m.py") ∧
        Entries.get? (.text "attempt") (Report.contextIn row) = some (.int 2) ∧
        Entries.get? (.text "metadata") (Report.contextIn row) = some (.text "kept") ∧
        Entries.get? (.text "__doc__") (Report.contextIn row) = none := by
  intro shared earlier request later
  obtain ⟨start, report, slot, opened, built⟩ : ∃ start report slot, openAll shared = .ok start ∧
      ((start.makeAll earlier).make request.bare).1 = .ok (.report report slot) := ⟨_, _, _, rfl, rfl⟩
  have own : request.context = none := rfl
  have something : ∀ entry ∈ request.given, entry.2 ≠ .null := by
    simp [FaultRequest.given, request]
  have whole : "__dict__" ∉ Entries.keys request.given := by decide
  have allowed : ∀ name ∈ Entries.keys request.given, name ∉ receiver :: fixedNames := by decide
  have asked : entriesName ∉ Entries.keys request.given := by decide
  obtain ⟨taken, tells⟩ := make_tells later opened built own something whole
  have told := (tells allowed).2
  rw [if_neg asked] at told
  obtain ⟨row, rowed, -, all⟩ := told
  exact ⟨start, report, slot, opened, built, own, something, whole, taken.mpr allowed, row, rowed, all "table", all "sql",
    all "migration", all "attempt", all "metadata", all "__doc__"⟩

/-- What a report is given under the name by which its context is asked keeps it from being told. -/
theorem make_untold :
    let request : FaultRequest :=
      { name := "MigrationError", message := .text "failed", additions := [[("to_dict", .text "x")]] }
    ∃ report slot after, ({} : Files).make request = (.ok (.report report slot), after) ∧
      ∀ row, { report with context := after.contextAt slot }.entries ≠ .ok row :=
  ⟨_, _, _, rfl, fun _ => nofun⟩

end Files
end DataLayer
