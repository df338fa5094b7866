import DataLayer.Proofs.Fault
import DataLayer.Proofs.Migration.FileName
import DataLayer.Proofs.Source.Loading

/-! Which class is loaded from a module. The lines of a module can come in any order, and each binds one name; what
they keep is that a class written in the module is told by its number. Main statement: a class is loaded exactly
when a single name is bound to a class that counts, so that a module with a single class fails to load where a
further name is bound to it. -/

namespace DataLayer.Source

open DataLayer.Text

variable {tree : Tree File} {path : Path} {role : Role} {bindings : Bindings} {called : String} {next : Nat}

/-! Modules, line by line. -/

/-- A line of a module. -/
inductive Line where
  | own (text : ClassText)
  | foreign (name base : String)
  | value (name : String) (value : Value)
  | further (name source : String)

namespace Line

/-- The name that a line binds. -/
def name : Line → String
  | .own text => normalForm text.name
  | .foreign name _ => normalForm name
  | .value name _ => normalForm name
  | .further name _ => normalForm name

/-- What a line binds its name to, with the next serial number after it. -/
def binding (bound : Bindings × Nat) : Line → Except Fault (Binding × Nat)
  | .own text => (bound.1.classOf (normalForm text.base)).map fun base =>
      (.class (base.extend bound.2 bound.1.called text), bound.2 + 1)
  | .foreign name base => (bound.1.classOf (normalForm base)).map fun base =>
      (.class (base.complete bound.2 name), bound.2 + 1)
  | .value _ content => .ok (.value content, bound.2)
  | .further _ source => (bound.1.lookUp (normalForm source)).map fun binding => (binding, bound.2)

/-- The names that are bound after a line. -/
def run (bound : Bindings × Nat) (line : Line) : Except Fault (Bindings × Nat) :=
  (line.binding bound).map fun done => (Entries.put line.name done.1 bound.1, done.2)

/-- The names that are bound after some lines of a module. -/
def runAll (called : String) (lines : List Line) : Except Fault (Bindings × Nat) :=
  lines.foldlM run (Bindings.initial called, 3)

end Line

/-- The lines of a module as it is written. -/
def ModuleText.lines (text : ModuleText) : List Line :=
  text.classes.map .own ++ text.foreign.map (fun entry => .foreign entry.1 entry.2) ++
    text.values.map (fun entry => .value entry.1 entry.2) ++ text.aliases.map (fun entry => .further entry.1 entry.2)

theorem addClasses_lines (bound : Bindings × Nat) (classes : List ClassText) :
    Bindings.addClasses bound.1 bound.2 classes = (classes.map Line.own).foldlM Line.run bound := by
  induction classes generalizing bound with
  | nil => rfl
  | cons text rest ih =>
    rw [List.map_cons, List.foldlM_cons, Line.run, Line.binding, Bindings.addClasses]
    cases bound.1.classOf (normalForm text.base) with
    | error fault => rfl
    | ok base => exact ih (Entries.put (normalForm text.name) _ bound.1, bound.2 + 1)

theorem addForeign_lines (bound : Bindings × Nat) (foreign : List (String × String)) :
    Bindings.addForeign bound.1 bound.2 foreign =
      ((foreign.map fun entry => Line.foreign entry.1 entry.2).foldlM Line.run bound).map Prod.fst := by
  induction foreign generalizing bound with
  | nil => rfl
  | cons entry rest ih =>
    rw [List.map_cons, List.foldlM_cons, Line.run, Line.binding, Bindings.addForeign]
    cases bound.1.classOf (normalForm entry.2) with
    | error fault => rfl
    | ok base => exact ih (Entries.put (normalForm entry.1) _ bound.1, bound.2 + 1)

theorem addValues_lines (bound : Bindings × Nat) (values : List (String × Value)) :
    (values.map fun entry => Line.value entry.1 entry.2).foldlM Line.run bound =
      .ok (values.foldl (fun bound entry => Entries.put (normalForm entry.1) (.value entry.2) bound) bound.1, bound.2) := by
  induction values generalizing bound with
  | nil => rfl
  | cons entry rest ih =>
    rw [List.map_cons, List.foldlM_cons, List.foldl_cons, Line.run, Line.binding]
    exact ih (Entries.put (normalForm entry.1) _ bound.1, bound.2)

theorem addAliases_lines (bound : Bindings × Nat) (aliases : List (String × String)) :
    Bindings.addAliases bound.1 aliases =
      ((aliases.map fun entry => Line.further entry.1 entry.2).foldlM Line.run bound).map Prod.fst := by
  induction aliases generalizing bound with
  | nil => rfl
  | cons entry rest ih =>
    rw [List.map_cons, List.foldlM_cons, Line.run, Line.binding, Bindings.addAliases]
    cases bound.1.lookUp (normalForm entry.2) with
    | error fault => rfl
    | ok binding => exact ih (Entries.put (normalForm entry.1) binding bound.1, bound.2)

/-- A module binds what its lines bind, one after the other. -/
theorem ofModule_lines (called : String) (text : ModuleText) :
    Bindings.ofModule called text = (do
      let (bindings, _) ← Line.runAll called text.lines
      match text.failure with
      | some fault => .error fault
      | none => return bindings) := by
  unfold Bindings.ofModule Line.runAll ModuleText.lines
  rw [List.foldlM_append, List.foldlM_append, List.foldlM_append, ← addClasses_lines]
  cases Bindings.addClasses (Bindings.initial called) 3 text.classes with
  | error fault => rfl
  | ok classes =>
    obtain ⟨bindings, serial⟩ := classes
    dsimp only [bind, Except.bind]
    rw [addForeign_lines (bindings, serial)]
    cases (text.foreign.map fun entry => Line.foreign entry.1 entry.2).foldlM Line.run (bindings, serial) with
    | error fault => rfl
    | ok foreign =>
      dsimp only [Except.map]
      rw [addValues_lines]
      dsimp only
      rw [addAliases_lines (_, foreign.2)]
      cases List.foldlM Line.run _ (text.aliases.map _) with
      | error fault => rfl
      | ok bound => rfl

/-- What is loaded are the names that some lines bind. -/
theorem load_lines (loaded : load tree path = .ok bindings) :
    ∃ lines next, Line.runAll (moduleName path) lines = .ok (bindings, next) := by
  have written {text : ModuleText} (bound : Bindings.ofModule (moduleName path) text = .ok bindings) :
      ∃ lines next, Line.runAll (moduleName path) lines = .ok (bindings, next) := by
    rw [ofModule_lines] at bound
    cases ran : Line.runAll (moduleName path) text.lines with
    | error fault =>
      rw [ran] at bound
      cases bound
    | ok last =>
      rw [ran] at bound
      dsimp only [bind, Except.bind] at bound
      split at bound
      · cases bound
      · cases bound
        exact ⟨text.lines, last.2, ran⟩
  obtain ⟨file, -, bound⟩ := load_ok loaded
  cases file with
  | module text => exact written bound
  | template name =>
    unfold File.bindings at bound
    dsimp only at bound
    split at bound
    · cases bound
    · exact written bound

/-! What loading fails with. -/

open DataLayer.Fault

theorem Bindings.lookUp_owned (bindings : Bindings) (name : String) : Owned (bindings.lookUp name) := by
  unfold Bindings.lookUp
  split
  · exact owned_ok _
  · split
    · exact owned_ok _
    · split
      · exact owned_ok _
      · exact owned_lift (.error _)

theorem Bindings.classOf_owned (bindings : Bindings) (name : String) : Owned (bindings.classOf name) := by
  refine owned_bind (bindings.lookUp_owned name) fun binding => ?_
  cases binding with
  | value content => exact owned_lift (.error _)
  | «class» definition =>
    dsimp only
    split
    · exact owned_ok _
    · split
      · exact owned_lift (.error _)
      · exact owned_ok _

/-- A line that cannot be taken is told here why. -/
theorem Line.run_owned (bound : Bindings × Nat) (line : Line) : Owned (Line.run bound line) := by
  refine owned_map ?_ _
  cases line with
  | own text => exact owned_map (Bindings.classOf_owned _ _) _
  | foreign name base => exact owned_map (Bindings.classOf_owned _ _) _
  | value name content => exact owned_ok _
  | further name source => exact owned_map (Bindings.lookUp_owned _ _) _

theorem ofModule_escapes {text : ModuleText} {fault : Fault} (failed : Bindings.ofModule called text = .error fault)
    (escapes : fault.escapes = true) : text.failure = some fault := by
  rw [ofModule_lines] at failed
  cases ran : Line.runAll called text.lines with
  | error other =>
    rw [ran] at failed
    cases failed
    rw [(owned_foldlM Line.run_owned _ _ fault ran).seen] at escapes
    cases escapes
  | ok bound =>
    rw [ran] at failed
    dsimp only [bind, Except.bind] at failed
    split at failed
    next raised =>
      cases failed
      exact raised
    next => cases failed

/-- A file that is loaded ends the program only by what its module raises itself. -/
theorem load_escapes {fault : Fault} (failed : load tree path = .error fault) (escapes : fault.escapes = true) :
    ∃ text, tree.find? path = some (.file (.module text)) ∧ text.failure = some fault := by
  have bound {file : File} (bound : file.bindings path = .error fault) :
      ∃ text, file = .module text ∧ text.failure = some fault := by
    cases file with
    | module text => exact ⟨text, rfl, ofModule_escapes bound escapes⟩
    | template name =>
      unfold File.bindings at bound
      dsimp only at bound
      split at bound
      · cases bound
        cases escapes
      · cases ofModule_escapes bound escapes
  unfold load at failed
  split at failed
  · cases failed
    cases escapes
  · cases found : tree.find? path with
    | none =>
      rw [found] at failed
      cases failed
      cases escapes
    | some node =>
      rw [found] at failed
      cases node with
      | folder =>
        cases failed
        cases escapes
      | file file =>
        dsimp only at failed
        cases read : file.bindings path with
        | ok others =>
          rw [read] at failed
          cases failed
        | error other =>
          rw [read] at failed
          dsimp only at failed
          split at failed
          · cases failed
            obtain ⟨text, rfl, raised⟩ := bound read
            exact ⟨text, rfl, raised⟩
          · cases failed
            cases escapes

/-! What the lines keep. -/

namespace Bindings

/-- What a name is bound to, if it is a class. -/
def Holds (bindings : Bindings) (name : String) (definition : ClassValue) : Prop := (name, .class definition) ∈ bindings

end Bindings

/-- What a line binds a name to: a class that is written there, something that is bound already, or what comes from
elsewhere. -/
inductive Line.Binds (bound : Bindings × Nat) : Binding → Nat → Prop where
  | own {definition : ClassValue} (home : definition.home = some bound.1.called) (serial : definition.serial = bound.2) :
      Line.Binds bound (.class definition) (bound.2 + 1)
  | known {name : String} {binding : Binding} (there : (name, binding) ∈ bound.1) : Line.Binds bound binding bound.2
  | elsewhere {binding : Binding} {next : Nat} (foreign : ∀ definition, binding = .class definition → definition.home = none)
      (later : bound.2 ≤ next) : Line.Binds bound binding next

theorem Bindings.lookUp_ok {name : String} {binding : Binding} (found : bindings.lookUp name = .ok binding) :
    (∃ known, (known, binding) ∈ bindings) ∨ ∀ definition, binding = .class definition → definition.home = none := by
  unfold Bindings.lookUp at found
  cases got : Entries.get? name bindings with
  | some known =>
    rw [got] at found
    cases found
    exact .inl (Entries.mem_of_get? got)
  | none =>
    rw [got] at found
    dsimp only at found
    split at found
    · cases found
      refine .inr ?_
      rintro definition ⟨⟩
      rfl
    · split at found
      · cases found
        refine .inr ?_
        rintro definition ⟨⟩
        rfl
      · cases found

theorem Line.binds_of_binding {line : Line} {bound : Bindings × Nat} {done : Binding × Nat}
    (bind : line.binding bound = .ok done) : Line.Binds bound done.1 done.2 := by
  cases line with
  | own text =>
    rw [Line.binding] at bind
    cases base : bound.1.classOf (normalForm text.base) with
    | error fault =>
      rw [base] at bind
      cases bind
    | ok base =>
      rw [base] at bind
      cases bind
      exact .own rfl rfl
  | foreign name text =>
    rw [Line.binding] at bind
    cases base : bound.1.classOf (normalForm text) with
    | error fault =>
      rw [base] at bind
      cases bind
    | ok base =>
      rw [base] at bind
      cases bind
      refine .elsewhere ?_ (Nat.le_succ _)
      rintro definition ⟨⟩
      rfl
  | value name content =>
    rw [Line.binding] at bind
    cases bind
    exact .elsewhere (fun definition same => nomatch same) (Nat.le_refl _)
  | further name source =>
    rw [Line.binding] at bind
    cases found : bound.1.lookUp (normalForm source) with
    | error fault =>
      rw [found] at bind
      cases bind
    | ok binding =>
      rw [found] at bind
      cases bind
      rcases Bindings.lookUp_ok found with ⟨name, there⟩ | foreign
      · exact .known there
      · exact .elsewhere foreign (Nat.le_refl _)

section

variable {bound last : Bindings × Nat} {name : String} {definition : ClassValue} {lines : List Line}

theorem Line.run_ok {line : Line} (ran : line.run bound = .ok last) :
    ∃ binding, Line.Binds bound binding last.2 ∧ last.1 = Entries.put line.name binding bound.1 := by
  unfold Line.run at ran
  cases bind : line.binding bound with
  | error fault =>
    rw [bind] at ran
    cases ran
  | ok done =>
    rw [bind] at ran
    cases ran
    exact ⟨done.1, Line.binds_of_binding bind, rfl⟩

/-- A class of the module that a name is bound to was bound to one before, or is the one that the line writes. -/
theorem Line.Binds.holds {binding : Binding} {next : Nat} (binds : Line.Binds bound binding next) {own : String}
    (holds : Bindings.Holds (Entries.put own binding bound.1) name definition) (home : definition.home.isSome = true) :
    (∃ known, bound.1.Holds known definition) ∨
      definition.home = some bound.1.called ∧ definition.serial = bound.2 ∧ next = bound.2 + 1 ∧ binding = .class definition := by
  rcases Entries.mem_put holds with there | same
  · exact .inl ⟨name, there⟩
  · dsimp only at same
    subst same
    cases binds with
    | own home serial => exact .inr ⟨home, serial, rfl, rfl⟩
    | known there => exact .inl ⟨_, there⟩
    | elsewhere foreign later =>
      rw [foreign definition rfl] at home
      cases home

theorem Line.Binds.le {binding : Binding} {next : Nat} (binds : Line.Binds bound binding next) : bound.2 ≤ next := by
  cases binds with
  | own home serial => exact Nat.le_succ _
  | known there => exact Nat.le_refl _
  | elsewhere foreign later => exact later

/-- Names are bound once each, and the classes of the module are told by their numbers, which have been given out. -/
structure Orderly (bound : Bindings × Nat) : Prop where
  distinct : (Entries.keys bound.1).Nodup
  below : ∀ {name definition}, bound.1.Holds name definition → definition.home.isSome = true → definition.serial < bound.2
  single : ∀ {name name' definition definition'}, bound.1.Holds name definition → bound.1.Holds name' definition' →
    definition.home.isSome = true → definition'.home.isSome = true → definition.serial = definition'.serial →
      definition = definition'

/-- At the start of a module no name is bound to a class of its own. -/
theorem home_initial (holds : (Bindings.initial called).Holds name definition) : definition.home = none := by
  simp only [Bindings.Holds, Bindings.initial, List.mem_cons, Prod.mk.injEq, reduceCtorEq, and_false, false_or,
    Binding.class.injEq, List.not_mem_nil, or_false] at holds
  rcases holds with ⟨-, rfl⟩ | ⟨-, rfl⟩
  · rfl
  · rfl

theorem orderly_initial (called : String) : Orderly (Bindings.initial called, 3) where
  distinct := show ["__name__", "Migration", "Seeder"].Nodup by decide
  below holds home := by
    rw [home_initial holds] at home
    cases home
  single holds _ home := by
    rw [home_initial holds] at home
    cases home

/-- A line keeps the names in order. -/
theorem Orderly.run (orderly : Orderly bound) {line : Line} (ran : line.run bound = .ok last) : Orderly last := by
  obtain ⟨binding, binds, put⟩ := Line.run_ok ran
  have later := binds.le
  constructor
  · rw [put]
    exact Entries.nodup_keys_put _ _ orderly.distinct
  · intro name definition holds home
    rw [put] at holds
    rcases binds.holds holds home with ⟨known, there⟩ | ⟨-, serial, next, -⟩
    · exact Nat.lt_of_lt_of_le (orderly.below there home) later
    · omega
  · intro name name' definition definition' holds holds' home home' same
    rw [put] at holds holds'
    -- A class that was bound before has a smaller number than one that the line writes.
    rcases binds.holds holds home with ⟨known, there⟩ | ⟨-, serial, -, own⟩
    · rcases binds.holds holds' home' with ⟨known', there'⟩ | ⟨-, serial', -, -⟩
      · exact orderly.single there there' home home' same
      · have below := orderly.below there home
        omega
    · rcases binds.holds holds' home' with ⟨known', there'⟩ | ⟨-, -, -, own'⟩
      · have below := orderly.below there' home'
        omega
      · exact Binding.class.inj (own.symm.trans own')

theorem orderly_runAll (ran : Line.runAll called lines = .ok last) : Orderly last :=
  Fault.foldlM_keeps (fun _ orderly ran => orderly.run ran) (orderly_initial called) ran

/-- The module is called as it was at the start, and so it was when its classes were written. -/
structure KeepsName (called : String) (bound : Bindings × Nat) : Prop where
  same : bound.1.called = .value (.text called)
  home : ∀ {name definition}, bound.1.Holds name definition → definition.home.isSome = true →
    definition.home = some (.value (.text called))

theorem KeepsName.run (keeps : KeepsName called bound) {line : Line} (other : line.name ≠ Bindings.ownName)
    (ran : line.run bound = .ok last) : KeepsName called last := by
  obtain ⟨binding, binds, put⟩ := Line.run_ok ran
  constructor
  · unfold Bindings.called
    rw [put, Entries.get?_put, beq_false_of_ne other, if_neg Bool.false_ne_true]
    exact keeps.same
  · intro name definition holds home
    rw [put] at holds
    rcases binds.holds holds home with ⟨known, there⟩ | ⟨own, -⟩
    · exact keeps.home there home
    · rw [own, keeps.same]

theorem keepsName_runAll (others : ∀ line ∈ lines, line.name ≠ Bindings.ownName)
    (ran : Line.runAll called lines = .ok last) : KeepsName called last := by
  refine Fault.foldlM_keeps (fun member keeps ran => keeps.run (others _ member) ran) ⟨rfl, ?_⟩ ran
  intro name definition holds home
  rw [home_initial holds] at home
  cases home

end

/-! What is chosen. -/

namespace Bindings

/-- Holds of the classes of a role that are written in a module called as this one is in the end. -/
def Counts (bindings : Bindings) (role : Role) (definition : ClassValue) : Prop :=
  definition.role = some role ∧ ∃ home, definition.home = some home ∧ bindings.called.same home = true

/-- The class of a role that the names of a module give, if a single one of them counts. -/
def choose (bindings : Bindings) (path : Path) (role : Role) : Except Fault ClassValue :=
  match bindings.candidates role with
  | [definition] => return definition
  | found => refuse (.aboutMigration
      (path.name ++ " must define exactly one " ++ role.name ++ " subclass, found " ++ decimal found.length) path.name)

/-- The class that an entry counts for. -/
def counted? (bindings : Bindings) (role : Role) (entry : String × Binding) : Option ClassValue :=
  match entry.2 with
  | .class definition =>
    let isOwn := (definition.home.map bindings.called.same).getD false
    if isOwn && definition.role == some role then some definition else none
  | .value _ => none

theorem candidates_eq (bindings : Bindings) (role : Role) :
    bindings.candidates role = bindings.filterMap (bindings.counted? role) := rfl

theorem counted?_eq_some {entry : String × Binding} {definition : ClassValue} :
    bindings.counted? role entry = some definition ↔ entry.2 = .class definition ∧ bindings.Counts role definition := by
  unfold counted? Counts
  cases entry.2 with
  | value content => simp
  | «class» own =>
    dsimp only
    constructor
    · intro counts
      split at counts
      next both =>
        cases counts
        obtain ⟨isOwn, isRole⟩ := Bool.and_eq_true_iff.mp both
        cases home : definition.home with
        | none =>
          rw [home] at isOwn
          cases isOwn
        | some home' =>
          rw [home] at isOwn
          exact ⟨rfl, beq_iff_eq.mp isRole, home', rfl, isOwn⟩
      next => cases counts
    · rintro ⟨same, isRole, home, there, isOwn⟩
      cases same
      rw [there, isRole]
      simp [isOwn]

/-- A single entry counts exactly when a single name is bound to a class that does. -/
theorem candidates_eq_singleton (distinct : (Entries.keys bindings).Nodup) {definition : ClassValue} :
    bindings.candidates role = [definition] ↔ ∃ name, bindings.Holds name definition ∧ bindings.Counts role definition ∧
      ∀ {other definition'}, bindings.Holds other definition' → bindings.Counts role definition' → other = name := by
  have entries : bindings.Nodup := List.Nodup.of_map Prod.fst distinct
  rw [candidates_eq, List.filterMap_eq_cons_iff]
  constructor
  · rintro ⟨before, ⟨name, binding⟩, after, split, unused, used, rest⟩
    obtain ⟨same, counts⟩ := counted?_eq_some.mp used
    dsimp only at same
    subst same
    refine ⟨name, ?_, counts, ?_⟩
    · unfold Holds
      rw [split]
      exact List.mem_append_right before List.mem_cons_self
    · intro other definition' holds counts'
      have used' : bindings.counted? role (other, .class definition') = some definition' := counted?_eq_some.mpr ⟨rfl, counts'⟩
      unfold Holds at holds
      rw [split] at holds
      rcases List.mem_append.mp holds with early | late
      · rw [unused _ early] at used'
        cases used'
      · rcases List.mem_cons.mp late with same | later
        · cases same
          rfl
        · rw [List.filterMap_eq_nil_iff.mp rest _ later] at used'
          cases used'
  · rintro ⟨name, holds, counts, alone⟩
    have unused : ∀ entry ∈ bindings, entry ≠ (name, .class definition) → bindings.counted? role entry = none := by
      rintro ⟨other, binding⟩ member apart
      cases counted : bindings.counted? role (other, binding) with
      | none => rfl
      | some definition' =>
        obtain ⟨same, counts'⟩ := counted?_eq_some.mp counted
        dsimp only at same
        subst same
        obtain rfl := alone member counts'
        exact absurd (List.inj_on_of_nodup_map distinct member holds rfl) apart
    obtain ⟨before, after, split⟩ := List.append_of_mem holds
    rw [split] at entries
    have absent := (List.nodup_cons.mp (List.nodup_middle.mp entries)).1
    rw [List.mem_append, not_or] at absent
    refine ⟨before, (name, .class definition), after, split, ?_, counted?_eq_some.mpr ⟨rfl, counts⟩, ?_⟩
    · intro entry member
      have there : entry ∈ bindings := split ▸ List.mem_append_left _ member
      apply unused entry there
      rintro rfl
      exact absent.1 member
    · apply List.filterMap_eq_nil_iff.mpr
      intro entry member
      have there : entry ∈ bindings := split ▸ List.mem_append_right before (List.mem_cons_of_mem _ member)
      apply unused entry there
      rintro rfl
      exact absent.2 member

theorem choose_eq_ok {definition : ClassValue} :
    bindings.choose path role = .ok definition ↔ bindings.candidates role = [definition] := by
  unfold choose
  constructor
  · intro chosen
    split at chosen
    next own single =>
      cases chosen
      exact single
    next => cases chosen
  · intro single
    rw [single]
    rfl

/-- Where no class is chosen, this is reported as a complaint about the migration. -/
theorem choose_refuses (none : ∀ definition, bindings.choose path role ≠ .ok definition) :
    bindings.choose path role = .error (.report (.aboutMigration
      (path.name ++ " must define exactly one " ++ role.name ++ " subclass, found " ++
        decimal (bindings.candidates role).length) path.name)) := by
  generalize candidates : bindings.candidates role = found
  match found with
  | [definition] => exact absurd (choose_eq_ok.mpr candidates) (none definition)
  | [] =>
    unfold choose
    rw [candidates]
    rfl
  | first :: second :: rest =>
    unfold choose
    rw [candidates]
    rfl

/-- Holds of a class that is the only one of its role among those that the module wrote, however many names it is
bound to. -/
def IsOnly (bindings : Bindings) (role : Role) (definition : ClassValue) : Prop :=
  definition.role = some role ∧ definition.home.isSome = true ∧ (∃ name, bindings.Holds name definition) ∧
    ∀ {name definition'}, bindings.Holds name definition' → definition'.role = some role →
      definition'.home.isSome = true → definition'.serial = definition.serial

end Bindings

/-- Where the module keeps its name, its own classes are those that count. -/
theorem counts_iff {bound : Bindings × Nat} (keeps : KeepsName called bound) {name : String} {definition : ClassValue}
    (holds : bound.1.Holds name definition) :
    bound.1.Counts role definition ↔ definition.role = some role ∧ definition.home.isSome = true := by
  apply and_congr_right
  intro isRole
  constructor
  · rintro ⟨home, there, -⟩
    rw [there]
    rfl
  · intro home
    refine ⟨_, keeps.home holds home, ?_⟩
    rw [keeps.same]
    exact (Value.text_beq_text called called).trans (beq_self_eq_true called)

/-- Where the module keeps its name, a single name counts exactly when there is one class of the role that has one
name. -/
theorem single_iff_isOnly {bound : Bindings × Nat} (orderly : Orderly bound) (keeps : KeepsName called bound)
    {definition : ClassValue} :
    (∃ name, bound.1.Holds name definition ∧ bound.1.Counts role definition ∧
      ∀ {other definition'}, bound.1.Holds other definition' → bound.1.Counts role definition' → other = name) ↔
    bound.1.IsOnly role definition ∧ ∀ {name other}, bound.1.Holds name definition → bound.1.Holds other definition →
      other = name := by
  constructor
  · rintro ⟨name, holds, counts, alone⟩
    obtain ⟨isRole, home⟩ := (counts_iff keeps holds).mp counts
    refine ⟨⟨isRole, home, ⟨name, holds⟩, ?_⟩, ?_⟩
    · intro name' definition' holds' isRole' home'
      obtain rfl := alone holds' ((counts_iff keeps holds').mpr ⟨isRole', home'⟩)
      cases List.inj_on_of_nodup_map orderly.distinct holds holds' rfl
      rfl
    · intro name' other holds' holds''
      rw [alone holds' counts, alone holds'' counts]
  · rintro ⟨⟨isRole, home, ⟨name, holds⟩, only⟩, unique⟩
    refine ⟨name, holds, (counts_iff keeps holds).mpr ⟨isRole, home⟩, ?_⟩
    intro other definition' holds' counts'
    obtain ⟨isRole', home'⟩ := (counts_iff keeps holds').mp counts'
    obtain rfl := orderly.single holds' holds home' home (only holds' isRole' home')
    exact unique holds holds'

/-- The class that is loaded from a module, whatever its lines are and in whatever order they come. It is loaded
exactly when a single name is bound to a class of the role that counts, and that is the class; otherwise a complaint
about the migration is reported. Where no line replaces the name of the module, the classes that count are those that
the module wrote: the only one of them is loaded as long as it has a single name. -/
theorem loadClass_iff (path : Path) (role : Role) :
    (∀ {tree bindings}, load tree path = .ok bindings → loadClass tree path role = bindings.choose path role ∧
      ∃ lines next, Line.runAll (moduleName path) lines = .ok (bindings, next)) ∧
    ∀ {called lines bindings next}, Line.runAll called lines = .ok (bindings, next) →
      (∀ definition, bindings.choose path role = .ok definition ↔
        ∃ name, bindings.Holds name definition ∧ bindings.Counts role definition ∧
          ∀ {other definition'}, bindings.Holds other definition' → bindings.Counts role definition' → other = name) ∧
      ((∀ definition, bindings.choose path role ≠ .ok definition) →
        ∃ report, bindings.choose path role = .error (.report report) ∧ report.kind = .migration) ∧
      ((∀ line ∈ lines, line.name ≠ Bindings.ownName) → ∀ definition, bindings.choose path role = .ok definition ↔
        bindings.IsOnly role definition ∧ ∀ {name other}, bindings.Holds name definition → bindings.Holds other definition →
          other = name) := by
  constructor
  · intro tree bindings loaded
    refine ⟨?_, load_lines loaded⟩
    change (load tree path).bind (fun bindings => bindings.choose path role) = _
    rw [loaded]
    rfl
  · intro called lines bindings next ran
    have orderly := orderly_runAll ran
    have chosen (definition : ClassValue) : bindings.choose path role = .ok definition ↔ _ :=
      Bindings.choose_eq_ok.trans (Bindings.candidates_eq_singleton orderly.distinct)
    refine ⟨chosen, fun none => ⟨_, Bindings.choose_refuses none, rfl⟩, ?_⟩
    intro others definition
    exact (chosen definition).trans (single_iff_isOnly orderly (keepsName_runAll others ran))

/-- A module that writes two classes, one of which gives its name to a value, beside a class from elsewhere. -/
theorem loadClass_iff_replaced :
    let path : Path := { parts := ["Final.py"] }
    let lines : List Line := [.own { name := "Change" }, .foreign "Other" "Migration", .value "Change" (.int 1),
      .further "Later" "Migration", .own { name := "Final" }]
    let final : ClassValue := { serial := 5, name := "Final", home := some (.value (.text "m")), role := some .migration }
    ∃ bindings next, Line.runAll "m" lines = .ok (bindings, next) ∧ bindings.IsOnly .migration final ∧
      bindings.choose path .migration = .ok final := by
  intro path lines final
  let bindings : Bindings := [("__name__", .value (.text "m")), ("Migration", .class (.root .migration)),
    ("Seeder", .class (.root .seeder)), ("Change", .value (.int 1)),
    ("Other", .class ((ClassValue.root .migration).complete 4 "Other")), ("Later", .class (.root .migration)),
    ("Final", .class final)]
  have ran : Line.runAll "m" lines = .ok (bindings, 6) := rfl
  have others : ∀ line ∈ lines, line.name ≠ Bindings.ownName := by
    simp only [lines, List.forall_mem_cons, Line.name]
    decide +kernel
  have written {name : String} {definition : ClassValue} (holds : bindings.Holds name definition)
      (home : definition.home.isSome = true) : name = "Final" ∧ definition = final := by
    simp only [Bindings.Holds, bindings, List.mem_cons, Prod.mk.injEq, reduceCtorEq, and_false, false_or,
      Binding.class.injEq, List.not_mem_nil, or_false] at holds
    rcases holds with ⟨-, rfl⟩ | ⟨-, rfl⟩ | ⟨-, rfl⟩ | ⟨-, rfl⟩ | own
    · cases home
    · cases home
    · cases home
    · cases home
    · exact own
  have only : bindings.IsOnly .migration final := by
    refine ⟨rfl, rfl, ⟨"Final", by simp [Bindings.Holds, bindings]⟩, ?_⟩
    intro name definition holds isRole home
    rw [(written holds home).2]
  refine ⟨bindings, 6, ran, only, ?_⟩
  apply (((loadClass_iff path .migration).2 ran).2.2 others final).mpr
  refine ⟨only, ?_⟩
  intro name other holds holds'
  rw [(written holds rfl).1, (written holds' rfl).1]

/-- A file that defines one class and gives it a second name. The class is the only one, but none is loaded. -/
theorem loadClass_alias :
    let text : ModuleText := { classes := [{ name := "M", up := some [], down := some [] }], aliases := [("N", "M")] }
    let path : Path := { parts := ["m", "2025_01_01_000000_M.py"] }
    let tree : Tree File := { nodes := [(["m"], .folder), (["m", "2025_01_01_000000_M.py"], .file (.module text))] }
    ∃ bindings definition, load tree path = .ok bindings ∧ bindings.IsOnly .migration definition ∧
      loadClass tree path .migration = .error (.report (.aboutMigration
        "2025_01_01_000000_M.py must define exactly one Migration subclass, found 2" "2025_01_01_000000_M.py")) := by
  intro text path tree
  let definition := onlyClass (moduleName path) "M" [] []
  let bindings : Bindings := [("__name__", .value (.text (moduleName path))), ("Migration", .class (.root .migration)),
    ("Seeder", .class (.root .seeder)), ("M", .class definition), ("N", .class definition)]
  have bound : (File.module text).bindings path = .ok bindings := rfl
  have loaded : load tree path = .ok bindings := (load_plain (by decide +kernel) rfl bindings).mpr bound
  have written {name : String} {definition' : ClassValue} (holds : bindings.Holds name definition')
      (home : definition'.home.isSome = true) : definition' = definition := by
    simp only [Bindings.Holds, bindings, List.mem_cons, Prod.mk.injEq, reduceCtorEq, and_false, false_or,
      Binding.class.injEq, List.not_mem_nil, or_false] at holds
    rcases holds with ⟨-, rfl⟩ | ⟨-, rfl⟩ | ⟨-, own⟩ | ⟨-, own⟩
    · cases home
    · cases home
    · exact own
    · exact own
  have only : bindings.IsOnly .migration definition := by
    refine ⟨rfl, rfl, ⟨"M", by simp [Bindings.Holds, bindings]⟩, ?_⟩
    intro name definition' holds isRole home
    rw [written holds home]
  have found : bindings.candidates .migration = [definition, definition] := by
    simp [bindings, definition, Bindings.candidates, Bindings.called, Bindings.ownName, Entries.get?, ClassValue.root,
      onlyClass, ModuleName.same]
  refine ⟨bindings, definition, loaded, only, ?_⟩
  unfold loadClass
  simp only [loaded, bind, Except.bind, found]
  have words : path.name ++ " must define exactly one " ++ Role.name .migration ++ " subclass, found " ++ decimal 2 =
      "2025_01_01_000000_M.py must define exactly one Migration subclass, found 2" := by decide +kernel
  exact congrArg (fun message => refuse (.aboutMigration message path.name)) words

end DataLayer.Source
