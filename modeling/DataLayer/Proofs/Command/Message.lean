import DataLayer.Proofs.Command.Complaint
import DataLayer.Proofs.Markup.Verbatim

/-! Messages as they reach the reader of a command line. A message is put into a text that is read as markup, and
nothing in it is set apart from the text's own tags. Main statement: a command line that has messages to tell either ends
with the code for failure and the lines of all their texts, or at a text that cannot be shown; messages that are read as
they stand are told in full, and no others are, but for names between colons. -/

namespace DataLayer.Command

open DataLayer.Action DataLayer.Database DataLayer.Migration DataLayer.Markup DataLayer.Terminal DataLayer.Text Fault

variable {σ α : Type} {desk : Desk σ} {request : Request} {tree : Tree Source.File}

namespace Screen

/-- The characters of lines that can be seen. -/
def seen (lines : List String) : List Char := lines.flatMap fun line => ink line.toList

theorem seen_append (first second : List String) : seen (first ++ second) = seen first ++ seen second :=
  List.flatMap_append

theorem seen_flatten (rows : List (List String)) : seen rows.flatten = rows.flatMap seen := by
  induction rows with
  | nil => rfl
  | cons row rest ih => rw [List.flatten_cons, seen_append, ih, List.flatMap_cons]

theorem isBlank_of_endsLine {c : Char} (ends : endsLine c = true) : isBlank c = true := by
  simp only [endsLine, isBlank, blankRanges] at ends ⊢
  simp at ends ⊢
  omega

theorem ink_linesAfter {line : List Char} {isOpen : Bool} (begun : isOpen = false → line = []) (chars : List Char) :
    (linesAfter line isOpen chars).flatMap ink = ink line.reverse ++ ink chars := by
  fun_induction linesAfter line isOpen chars with
  | case1 => simp
  | case2 line isOpen closed =>
    rw [begun (Bool.eq_false_iff.mpr closed)]
    rfl
  | case3 line isOpen rest ih =>
    rw [List.flatMap_cons, ih fun _ => rfl, ink_cons, ink_cons]
    rfl
  | case4 line isOpen c rest _ ends ih =>
    rw [List.flatMap_cons, ih fun _ => rfl, ink_cons, if_pos (isBlank_of_endsLine ends)]
    rfl
  | case5 line isOpen c rest _ ends ih =>
    rw [ih nofun, List.reverse_cons, ink_append, List.append_assoc, ← ink_append]
    rfl

theorem seen_readBack (lines : List String) : seen (readBack lines) = seen lines := by
  induction lines with
  | nil => rfl
  | cons line rest ih =>
    have read : seen (Text.lines (line ++ "\n")) = ink line.toList := by
      unfold seen Text.lines
      rw [List.flatMap_map]
      simp only [String.toList_ofList]
      rw [show (fun chars => ink chars) = ink from rfl, ink_linesAfter fun _ => rfl, String.toList_append, ink_append]
      exact List.append_nil _
    unfold readBack at ih ⊢
    rw [List.flatMap_cons, seen_append, read, ih]
    rfl

theorem chars_accented (marked : Marked) : (accented marked).chars = marked.chars := by
  unfold accented
  split <;> rfl

/-- Nothing is seen of a text but what is read of it. -/
theorem seen_sublist {text : String} {lines : List String} (shown : linesOf text = .ok lines) :
    (seen lines).Sublist (ink (said text.toList)) := by
  obtain ⟨marked, rows, pieces, read, wrapped, limits, rfl⟩ := linesOf_stages shown
  rw [seen_readBack, ← ofText_chars read, ← chars_accented]
  refine List.Sublist.trans ?_ (inkOf_wrap_sublist wrapped)
  unfold seen
  rw [List.flatMap_map]
  simp only [String.toList_ofList]
  exact sublist_flatMap ((forall₂_of_mapM limits).flip.imp fun _ _ => ink_limited_sublist)

/-- All that is read of a text is seen, where nothing in it joins or widens. -/
theorem seen_of_steady {text : String} {lines : List String} {marked : Marked} (read : Marked.ofText text = .ok marked)
    (steady : Steady marked.chars) (shown : linesOf text = .ok lines) : seen lines = ink marked.chars := by
  obtain ⟨other, rows, pieces, read', wrapped, limits, rfl⟩ := linesOf_stages shown
  obtain rfl : marked = other := Except.ok.inj (read.symm.trans read')
  have steady' : Steady (accented marked).chars := by rwa [chars_accented]
  obtain ⟨rows', wrapped', same, fits⟩ := @wrap_fits width false (accented marked) (by decide) steady'
  obtain rfl : rows = rows' := Except.ok.inj (wrapped.symm.trans wrapped')
  have each (row : Marked) (member : row ∈ rows) :
      ∃ made, limited width row.runs = .ok made ∧ ink made.flatten = ink row.chars ∧ True :=
    ⟨row.runs, limited_fits (fits row member), by rw [flatten_runs], trivial⟩
  obtain ⟨pieces', limits', kept, -⟩ := mapM_kept each
  obtain rfl : pieces = pieces' := Except.ok.inj (limits.symm.trans limits')
  rw [seen_readBack, ← chars_accented, ← same]
  unfold seen
  rw [List.flatMap_map]
  simp only [String.toList_ofList]
  exact kept

end Screen

/-! Messages and the texts that they are put into. -/

/-- A message, and how it is told. -/
inductive Complaint where
  | error (message : String)
  | unopened (message : String)
  | failed (name message : String)

namespace Complaint

/-- The style in which the first word of a complaint is told. -/
def style : Complaint → String
  | .failed _ _ => "red"
  | _ => "bold red"

/-- The first word of a complaint. -/
def word : Complaint → String
  | .failed _ _ => "FAILED"
  | _ => "Error"

/-- What is told between the first word and the message. -/
def front : Complaint → String
  | .error _ => ": "
  | .unopened _ => ": DB Connection Failed: "
  | .failed _ _ => " "

/-- The message, after the name of the file that it is about. -/
def body : Complaint → String
  | .error message => message
  | .unopened message => message
  | .failed name message => name ++ ": " ++ message

/-- The text of a complaint as it is marked up. -/
def text : Complaint → String
  | .error message => "[bold red]Error[/bold red]: " ++ message
  | .unopened message => "[bold red]Error[/bold red]: " ++ ("DB Connection Failed: " ++ message)
  | .failed name message => "[red]FAILED[/red] " ++ name ++ ": " ++ message

/-- The text of a complaint as it is meant to be read. -/
def plain (complaint : Complaint) : String := complaint.word ++ complaint.front ++ complaint.body

variable (complaint : Complaint)

theorem isStyleName : IsStyleName complaint.style := by
  cases complaint with
  | failed name message => exact isStyleName_red
  | _ => exact isStyleName_boldRed

theorem toList_text : complaint.text.toList = '[' :: (complaint.style.toList ++ ']' :: (complaint.word.toList ++
    '[' :: '/' :: (complaint.style.toList ++ ']' :: (complaint.front.toList ++ complaint.body.toList)))) := by
  cases complaint with
  | failed name message =>
    have head : "[red]FAILED[/red] ".toList = '[' :: ("red".toList ++ ']' :: ("FAILED".toList ++
        '[' :: '/' :: ("red".toList ++ ']' :: " ".toList))) := by decide
    dsimp only [style, word, front, body, text]
    simp only [String.toList_append, head, List.cons_append, List.append_assoc]
  | error message =>
    have head : "[bold red]Error[/bold red]: ".toList = '[' :: ("bold red".toList ++ ']' :: ("Error".toList ++
        '[' :: '/' :: ("bold red".toList ++ ']' :: ": ".toList))) := by decide
    dsimp only [style, word, front, body, text]
    simp only [String.toList_append, head, List.cons_append, List.append_assoc]
  | unopened message =>
    have head : "[bold red]Error[/bold red]: ".toList ++ "DB Connection Failed: ".toList =
        '[' :: ("bold red".toList ++ ']' :: ("Error".toList ++
          '[' :: '/' :: ("bold red".toList ++ ']' :: ": DB Connection Failed: ".toList))) := by decide
    dsimp only [style, word, front, body, text]
    rw [String.toList_append, String.toList_append, ← List.append_assoc, head]
    simp only [List.cons_append, List.append_assoc]

theorem word_eq : complaint.word = "Error" ∨ complaint.word = "FAILED" := by
  cases complaint with
  | failed name message => exact .inr rfl
  | _ => exact .inl rfl

theorem isMild_word : ∀ c ∈ complaint.word.toList, Screen.isMild c = true := by
  rcases complaint.word_eq with word | word <;> rw [word] <;> exact List.all_eq_true.mp (by decide)

theorem word_ne_nil : complaint.word.toList ≠ [] := by
  rcases complaint.word_eq with word | word <;> rw [word] <;> decide

theorem written_word : written complaint.word.toList = complaint.word.toList := by
  rcases complaint.word_eq with word | word <;> rw [word] <;> decide +kernel

theorem front_eq : complaint.front = ": " ∨ complaint.front = ": DB Connection Failed: " ∨ complaint.front = " " := by
  cases complaint with
  | error message => exact .inl rfl
  | unopened message => exact .inr (.inl rfl)
  | failed name message => exact .inr (.inr rfl)

theorem isLeading_front : isLeading complaint.front.toList = true := by
  rcases complaint.front_eq with front | front | front <;> rw [front] <;> decide

theorem front_ne_nil : complaint.front.toList ≠ [] := by
  rcases complaint.front_eq with front | front | front <;> rw [front] <;> decide

theorem steady_word : Steady complaint.word.toList := by
  rcases complaint.word_eq with word | word <;> rw [word] <;> decide

theorem steady_front : Steady complaint.front.toList := by
  rcases complaint.front_eq with front | front | front <;> rw [front] <;> decide

/-- What is read of a complaint. -/
theorem said_text :
    said complaint.text.toList = complaint.word.toList ++ said (complaint.front.toList ++ complaint.body.toList) := by
  have bare := Screen.bare_of_mild complaint.isMild_word
  have word : spoken (.plain complaint.word.toList) = complaint.word.toList := by
    rw [spoken, unescaped_bare bare, written_word]
  unfold said
  rw [toList_text, piecesAfter_opening complaint.isStyleName,
    piecesAfter_closing complaint.isStyleName complaint.word_ne_nil bare]
  rw [List.flatMap_cons, List.flatMap_cons, List.flatMap_cons, word]
  rfl

/-- A complaint cannot be shown where the first tag in its message is a closing one. -/
theorem linesOf_stray {before content rest : List Char}
    (spelled : complaint.body.toList = before ++ '[' :: '/' :: (content ++ ']' :: rest))
    (bare : ∀ c ∈ before, isBare c = true) (inside : ∀ c ∈ content, isTagChar c = true) :
    ∃ misuse, Screen.linesOf complaint.text = .error misuse := by
  have bareWord := Screen.bare_of_mild complaint.isMild_word
  have bareFront : ∀ c ∈ complaint.front.toList ++ before, isBare c = true :=
    List.forall_mem_append.mpr ⟨isBare_of_leading complaint.isLeading_front, bare⟩
  have stops {read : Except Misuse Markup.Progress} (next : Markup.Progress → Except Misuse Markup.Progress)
      (failed : ∃ misuse, read = .error misuse) : ∃ misuse, (read >>= next).map Markup.Progress.finish = .error misuse := by
    obtain ⟨misuse, rfl⟩ := failed
    exact ⟨misuse, rfl⟩
  obtain ⟨misuse, unread⟩ : ∃ misuse, Marked.ofText complaint.text = .error misuse := by
    unfold Marked.ofText pieces
    rw [toList_text, piecesAfter_opening complaint.isStyleName,
      piecesAfter_closing complaint.isStyleName complaint.word_ne_nil bareWord, spelled, ← List.append_assoc,
      piecesAfter_tag bareFront (List.append_ne_nil_of_left_ne_nil complaint.front_ne_nil _) (by decide) inside]
    rw [List.foldlM_cons, Progress.add_opening _ complaint.isStyleName, ok_bind]
    rw [List.foldlM_cons, Progress.add_bare _ bareWord, ok_bind]
    rw [List.foldlM_cons, Progress.add_closing complaint.isStyleName rfl, ok_bind]
    rw [List.foldlM_cons, Progress.add_bare _ bareFront, ok_bind, List.foldlM_cons]
    exact stops _ (add_stray rfl content)
  unfold Screen.linesOf
  rw [unread]
  exact ⟨misuse, rfl⟩

theorem toList_plain :
    complaint.plain.toList = complaint.word.toList ++ (complaint.front.toList ++ complaint.body.toList) := by
  unfold plain
  rw [String.toList_append, String.toList_append, List.append_assoc]

/-- Holds of complaints whose message is read as it stands, each of its characters in its own cells. -/
structure Clear : Prop where
  verbatim : Verbatim complaint.body.toList
  steady : Steady complaint.body.toList

variable {complaint}

/-- A clear complaint is shown, and all of it is seen. -/
theorem Clear.shows (clear : complaint.Clear) :
    ∃ lines, Screen.linesOf complaint.text = .ok lines ∧ Screen.seen lines = ink complaint.plain.toList := by
  have verbatim := clear.verbatim.led complaint.isLeading_front
  have steady : Steady (written (unescaped (complaint.front.toList ++ complaint.body.toList))) := by
    rw [verbatim.written_eq]
    exact (complaint.steady_front.append clear.steady).subset List.filter_sublist.subset
  obtain ⟨marked, read, chars, showable⟩ := Screen.ofText_showable complaint.isStyleName complaint.toList_text
    complaint.word_ne_nil (List.append_ne_nil_of_left_ne_nil complaint.front_ne_nil _) complaint.isMild_word
    verbatim.untagged steady.unjoined
  rw [written_word] at chars
  obtain ⟨lines, shown⟩ := Screen.linesOf_ok read showable
  refine ⟨lines, shown, ?_⟩
  rw [Screen.seen_of_steady read (chars ▸ complaint.steady_word.append steady) shown, chars, toList_plain, ink_append,
    ink_append, verbatim.ink_read]

/-- Marks can be seen. -/
theorem marks_ink (chars : List Char) : marks (ink chars) = marks chars := by
  unfold marks ink
  rw [List.countP_filter]
  refine List.countP_congr fun c _ => ?_
  rw [Bool.and_eq_true, Bool.not_eq_true', and_iff_left_iff_imp]
  intro mark
  simp only [isMark, Bool.or_eq_true, beq_iff_eq] at mark
  rcases mark with ((rfl | rfl) | code) | code
  · decide
  · decide
  · simp [isBlank, blankRanges, code]
  · simp [isBlank, blankRanges, code]

/-- What is seen of a complaint has no more marks than it is meant to be read with, where no names stand between
colons; and as many only where its message is read as it stands. -/
theorem marks_seen {lines : List String} (unnamed : Unnamed complaint.body.toList)
    (shown : Screen.linesOf complaint.text = .ok lines) :
    marks (Screen.seen lines) ≤ marks (ink complaint.plain.toList) ∧
      (marks (Screen.seen lines) = marks (ink complaint.plain.toList) → Verbatim complaint.body.toList) := by
  have led := unnamed.led complaint.isLeading_front
  have fewer : marks (Screen.seen lines) ≤ marks (ink (said complaint.text.toList)) :=
    (Screen.seen_sublist shown).countP_le
  rw [marks_ink, said_text, marks_append] at fewer
  rw [marks_ink, toList_plain, marks_append]
  obtain ⟨fewer', -⟩ := marks_said led
  refine ⟨by omega, fun same => ?_⟩
  exact (verbatim_of_marks led (by omega)).of_led complaint.isLeading_front unnamed

end Complaint

/-! What comes of complaints. -/

/-- A command line ends with the code for failure, and the lines of these complaints stand beside its output. -/
structure Outcome.Tells (outcome : Outcome σ) (complaints : List Complaint) : Prop where
  ends : outcome.ending = .exited (.int 1)
  shows : ∃ rows, List.Forall₂ (fun complaint lines => Screen.linesOf complaint.text = .ok lines) complaints rows ∧
    outcome.screen.complaints = rows.flatten

/-- A command line ends with the code for failure, and all that these complaints are meant to say is seen beside its
output, in order. -/
structure Outcome.InFull (outcome : Outcome σ) (complaints : List Complaint) : Prop where
  ends : outcome.ending = .exited (.int 1)
  seen : Screen.seen outcome.screen.complaints = complaints.flatMap fun complaint => ink complaint.plain.toList

theorem Outcome.Stumbles.not_exited {outcome : Outcome σ} {text : String} (stumbles : outcome.Stumbles text)
    (code : Value) : outcome.ending ≠ .exited code := by
  obtain ⟨misuse, -, died⟩ := stumbles
  rw [died]
  nofun

/-- A command line does not stumble at a text that can be shown. -/
theorem Outcome.Stumbles.unshown {outcome : Outcome σ} {text : String} (stumbles : outcome.Stumbles text)
    (lines : List String) : Screen.linesOf text ≠ .ok lines := by
  obtain ⟨misuse, unread, -⟩ := stumbles
  rw [unread]
  nofun

theorem Screen.addAll_told {announced : List String} {complaints : List Complaint} {screen last : Screen}
    (shown : screen.addAll (announced.map .line ++ complaints.map fun complaint => .complaint complaint.text) =
      (last, none)) :
    ∃ rows, List.Forall₂ (fun complaint lines => Screen.linesOf complaint.text = .ok lines) complaints rows ∧
      last.complaints = screen.complaints ++ rows.flatten := by
  induction announced generalizing screen with
  | cons text announced ih =>
    rw [List.map_cons, List.cons_append] at shown
    unfold addAll at shown
    cases added : screen.add (.line text) with
    | error misuse =>
      rw [added] at shown
      cases shown
    | ok next =>
      rw [added] at shown
      obtain ⟨lines, -, rfl⟩ := of_map_ok added
      exact @ih { screen with output := screen.output ++ lines } shown
  | nil =>
    rw [List.map_nil, List.nil_append] at shown
    induction complaints generalizing screen with
    | nil =>
      cases shown
      exact ⟨[], .nil, (List.append_nil _).symm⟩
    | cons complaint complaints ih =>
      rw [List.map_cons] at shown
      unfold addAll at shown
      cases added : screen.add (.complaint complaint.text) with
      | error misuse =>
        rw [added] at shown
        cases shown
      | ok next =>
        rw [added] at shown
        obtain ⟨lines, told, rfl⟩ := of_map_ok added
        obtain ⟨rows, each, whole⟩ := ih shown
        exact ⟨lines :: rows, .cons told each, by rw [whole, List.flatten_cons, List.append_assoc]⟩

/-- A verdict of failure is told, or a text of it cannot be shown. -/
theorem Desk.leaves_tells {verdict : Verdict} {announced : List String} {complaints : List Complaint}
    {session : Session σ} {log : LogSettings} (code : verdict.exitCode = 1)
    (told : verdict.shown = announced.map .line ++ complaints.map fun complaint => .complaint complaint.text) :
    (Desk.leaves (.ok verdict) tree session log).Tells complaints ∨ ∃ text ∈ announced ++ complaints.map Complaint.text,
      (Desk.leaves (.ok verdict) tree session log).Stumbles text := by
  rcases shown : ({} : Screen).addAll verdict.shown with ⟨screen, - | misuse⟩
  · left
    rw [told] at shown
    obtain ⟨rows, each, whole⟩ := Screen.addAll_told shown
    unfold Desk.leaves
    dsimp only
    rw [told, shown]
    exact ⟨by rw [code]; rfl, rows, each, whole.trans (List.nil_append _)⟩
  · right
    have died : (Desk.leaves (.ok verdict) tree session log).ending = .died (.misuse misuse) := by
      unfold Desk.leaves
      dsimp only
      rw [shown]
    obtain ⟨item, member, before, fails⟩ := Screen.addAll_stops shown
    rw [told] at member
    rcases List.mem_append.mp member with line | complaint
    · obtain ⟨text, among, rfl⟩ := List.mem_map.mp line
      exact ⟨text, List.mem_append_left _ among, misuse, Fault.map_eq_error.mp fails, died⟩
    · obtain ⟨other, among, rfl⟩ := List.mem_map.mp complaint
      exact ⟨other.text, List.mem_append_right _ (List.mem_map_of_mem among), misuse, Fault.map_eq_error.mp fails, died⟩

/-- Each of the complaints that are told can be shown. -/
theorem Outcome.Tells.readable {outcome : Outcome σ} {complaints : List Complaint} {complaint : Complaint}
    (tells : outcome.Tells complaints) (member : complaint ∈ complaints) :
    ∃ lines, Screen.linesOf complaint.text = .ok lines := by
  obtain ⟨rows, each, -⟩ := tells.shows
  clear tells
  induction each with
  | nil => cases member
  | cons shown _ ih =>
    rcases List.mem_cons.mp member with rfl | later
    · exact ⟨_, shown⟩
    · exact ih later

/-- Clear complaints are told in full. -/
theorem Outcome.Tells.inFull {outcome : Outcome σ} {complaints : List Complaint} (tells : outcome.Tells complaints)
    (clear : ∀ complaint ∈ complaints, complaint.Clear) : outcome.InFull complaints := by
  obtain ⟨rows, each, whole⟩ := tells.shows
  refine ⟨tells.ends, ?_⟩
  rw [whole, Screen.seen_flatten]
  clear whole tells
  induction each with
  | nil => rfl
  | @cons complaint lines complaints rows shown _ ih =>
    obtain ⟨here, later⟩ := List.forall_mem_cons.mp clear
    obtain ⟨lines', shown', seen⟩ := here.shows
    obtain rfl : lines = lines' := Except.ok.inj (shown.symm.trans shown')
    rw [List.flatMap_cons, List.flatMap_cons, seen, ih later]

/-- What is seen of complaints has no more marks than they are meant to be read with, and as many only where the message
of each is read as it stands. -/
theorem marks_rows {complaints : List Complaint} {rows : List (List String)}
    (each : List.Forall₂ (fun complaint lines => Screen.linesOf complaint.text = .ok lines) complaints rows)
    (unnamed : ∀ complaint ∈ complaints, Unnamed complaint.body.toList) :
    let meant := marks (complaints.flatMap fun complaint => ink complaint.plain.toList)
    marks (rows.flatMap Screen.seen) ≤ meant ∧
      (marks (rows.flatMap Screen.seen) = meant → ∀ complaint ∈ complaints, Verbatim complaint.body.toList) := by
  induction each with
  | nil => exact ⟨Nat.le_refl _, fun _ => nofun⟩
  | cons shown _ ih =>
    obtain ⟨here, later⟩ := List.forall_mem_cons.mp unnamed
    obtain ⟨fewer, whole⟩ := Complaint.marks_seen here shown
    obtain ⟨fewer', whole'⟩ := ih later
    simp only [List.flatMap_cons, marks_append]
    refine ⟨by omega, fun same => ?_⟩
    exact List.forall_mem_cons.mpr ⟨whole (by omega), whole' (by omega)⟩

/-- Where no names stand between colons, none but messages that are read as they stand are told in full. -/
theorem Outcome.Tells.verbatim {outcome : Outcome σ} {complaints : List Complaint} (tells : outcome.Tells complaints)
    (full : outcome.InFull complaints) (unnamed : ∀ complaint ∈ complaints, Unnamed complaint.body.toList) :
    ∀ complaint ∈ complaints, Verbatim complaint.body.toList := by
  obtain ⟨rows, each, whole⟩ := tells.shows
  have seen := full.seen
  rw [whole, Screen.seen_flatten] at seen
  exact (marks_rows each unnamed).2 (congrArg marks seen)

/-! What comes upon messages. -/

/-- The complaints about what failed, by name. -/
def failures (errors : List (String × String)) : List Complaint := errors.map fun error => .failed error.1 error.2

/-- What is told of seeders before what failed. -/
def seederLines (result : Seed.RunResult) : List String :=
  result.ran.map (fun name => "Seeding: " ++ name ++ "... [green]DONE[/green]") ++
    result.skipped.map fun name => "Seeding: " ++ name ++ "... [yellow]SKIPPED[/yellow] (class not found)"

/-- The stages at which a command line comes upon messages, with what it tells before them and what it tells of them. -/
inductive Desk.Faces (desk : Desk σ) (tree : Tree Source.File) (engine : σ) (request : Request) :
    List String → List Complaint → Prop where
  /-- A migration file is not made. -/
  | creating {name : String} {folder : Path} {report : Report} (task : request.task = .makeMigration name)
      (placed : desk.folder request = .ok folder)
      (refused : (Migration.create tree (.text name) (.text folder.text) desk.now).1 = .error (.report report)) :
      Faces desk tree engine request [] [.error report.message.display]
  /-- The database cannot be opened for the engine's sake. -/
  | opening {folder : Path} {db : Database σ} {report : Report} {s : Session σ}
      (other : ∀ name, request.task ≠ .makeMigration name) (placed : desk.folder request = .ok folder)
      (chosen : desk.database request = .ok db) (refused : on (connect db) { engine } = (.error (.report report), s))
      (kind : report.kind = .connection) : Faces desk tree engine request [] [.unopened report.message.display]
  /-- The work on an open database ends in a report. -/
  | working {folder : Path} {db : Database σ} {α : Type} {work : Database σ → Action σ α} {verdict : α → Verdict}
      {report : Report} {s : Session σ} (other : ∀ name, request.task ≠ .makeMigration name)
      (placed : desk.folder request = .ok folder) (chosen : desk.database request = .ok db)
      (task : desk.performOnDatabase tree folder request = desk.withDatabase request work verdict)
      (opened : on (connect db) { engine } = (.ok (), s)) (failed : (on (work db) s).1 = .error (.report report)) :
      Faces desk tree engine request [] [.error report.message.display]
  /-- A run of migrations has failures. -/
  | migrating {folder : Path} {db : Database σ} {result : Migration.RunResult} {s t : Session σ}
      (task : request.task = .migrate) (placed : desk.folder request = .ok folder)
      (chosen : desk.database request = .ok db) (opened : on (connect db) { engine } = (.ok (), s))
      (made : on (ensureLedger db) s = (.ok (), t)) (ran : (on (applyPending db tree folder) t).1 = .ok result)
      (failed : result.success = false) : Faces desk tree engine request [] (failures result.errors)
  /-- A run of seeders has failures. -/
  | seeding {folder : Path} {db : Database σ} {target : Option String} {result : Seed.RunResult} {s : Session σ}
      (task : request.task = .seed target) (placed : desk.folder request = .ok folder)
      (chosen : desk.database request = .ok db) (opened : on (connect db) { engine } = (.ok (), s))
      (ran : (on (Seed.run db tree folder folder.text target) s).1 = .ok result) (failed : result.success = false) :
      Faces desk tree engine request (seederLines result) (failures result.errors)

/-- What a run of migrations applies are migration files. -/
theorem applied_named {db : Database σ} {folder : Path} {s : Session σ} {result : Migration.RunResult}
    (ran : (on (applyPending db tree folder) s).1 = .ok result) :
    ∀ name ∈ result.applied, Migration.isFileName name = true := by
  rw [on_applyPending] at ran
  rcases reading : on (knownNames db) s with ⟨fault | known, t⟩ <;> rcases discovered : discover tree folder with misuse | files <;>
    rw [reading, discovered] at ran
  case error.error => cases ran
  case error.ok => cases ran
  case ok.error => cases ran
  dsimp only at ran
  obtain ⟨applied, rest, u, pending, -, ended⟩ := applyFiles_runs db tree folder known {} files t
  have named : ∀ name ∈ applied, Migration.isFileName name = true := by
    intro name member
    have there : name ∈ files.filter fun file => !known.contains (.text file) :=
      pending ▸ List.mem_append_left rest member
    exact isFileName_of_discovered discovered (List.mem_filter.mp there).1
  have same : result.applied = applied := by
    cases rest with
    | nil =>
      dsimp only at ended
      rw [ended] at ran
      cases ran
      rfl
    | cons file rest =>
      obtain ⟨before, after, fault, v, -, -, -, ended⟩ := ended
      rw [ended] at ran
      split at ran
      · cases ran
      · cases ran
        rfl
  rwa [same]

/-- A command line that comes upon messages ends with a verdict of failure, which tells of them last. -/
theorem Desk.run_faces {arguments : List String} {log : LogSettings} {engine : σ} {announced : List String}
    {complaints : List Complaint} (asks : desk.Asks arguments log request)
    (faces : desk.Faces tree engine request announced complaints) :
    ∃ (verdict : Verdict) (lines : List String) (left : Tree Source.File) (session : Session σ),
      desk.run tree engine arguments = leaves (.ok verdict) left session log ∧ verdict.exitCode = 1 ∧
      verdict.shown = lines.map .line ++ complaints.map (fun complaint => .complaint complaint.text) ∧
      ∀ text ∈ lines, text ∈ announced ∨ ∃ shown, Screen.linesOf text = .ok shown := by
  cases faces with
  | @creating name folder report task placed refused =>
    have answered := run_asks asks tree engine
    rw [answer_eq] at answered
    unfold perform at answered
    rw [placed] at answered
    dsimp only at answered
    rw [task] at answered
    change _ = leaves (judged Verdict.ofNewMigration (Migration.create tree _ _ desk.now).1) _ _ _ at answered
    rw [refused] at answered
    exact ⟨.failure report.message.display, [], _, _, answered, rfl, rfl, nofun⟩
  | @opening folder db report s other placed chosen refused kind =>
    obtain ⟨α, work, verdict, task⟩ := desk.exists_work other tree folder
    have ran : desk.run tree engine arguments = _ := run_onDatabase asks placed chosen other task
    rw [refused] at ran
    dsimp only [unopened] at ran
    rw [if_pos kind] at ran
    exact ⟨.failure ("DB Connection Failed: " ++ report.message.display), [], _, _, ran, rfl, rfl, nofun⟩
  | @working folder db α work verdict report s other placed chosen task opened failed =>
    obtain ⟨last, ran⟩ := run_opened asks placed chosen other task opened failed
    exact ⟨.failure report.message.display, [], _, _, ran, rfl, rfl, nofun⟩
  | @migrating folder db result s t task placed chosen opened made worked failed =>
    obtain ⟨session, ran⟩ : ∃ session, desk.run tree engine arguments = leaves (.ok (.ofMigrations result)) tree session log := by
      have whole := run_withLedger asks placed chosen (by rw [task]; nofun)
        (desk.performOnDatabase_migrate tree folder task) opened made
      rw [worked] at whole
      exact ⟨_, whole⟩
    refine ⟨_, result.applied.map fun name => "Migrating: " ++ name ++ "... [green]DONE[/green]", _, _, ran, ?_, ?_, ?_⟩
    · unfold Verdict.ofMigrations
      rw [failed]
      rfl
    · unfold Verdict.ofMigrations
      rw [failed, List.map_map]
      unfold failures
      rw [List.map_map]
      rfl
    · intro text member
      obtain ⟨name, applied, rfl⟩ := List.mem_map.mp member
      exact .inr (Screen.linesOf_migrating (applied_named worked name applied))
  | @seeding folder db target result s task placed chosen opened worked failed =>
    obtain ⟨last, ran⟩ := run_opened asks placed chosen (by rw [task]; nofun)
      (desk.performOnDatabase_seed tree folder task) opened worked
    refine ⟨_, seederLines result, _, _, ran, ?_, ?_, fun text member => .inl member⟩
    · unfold Verdict.ofSeeders
      rw [failed]
      rfl
    · unfold Verdict.ofSeeders
      rw [failed]
      unfold seederLines failures
      rw [List.map_append, List.map_map, List.map_map, List.map_map]
      rfl

namespace Desk

variable {arguments : List String} {log : LogSettings} {engine : σ} {announced : List String}
  {complaints : List Complaint} (asks : desk.Asks arguments log request)
  (faces : desk.Faces tree engine request announced complaints)

include asks faces

/-- The messages are told, or a text cannot be shown. -/
theorem run_tells : (desk.run tree engine arguments).Tells complaints ∨
    ∃ text ∈ announced ++ complaints.map Complaint.text, (desk.run tree engine arguments).Stumbles text := by
  obtain ⟨verdict, lines, left, session, ran, code, told, before⟩ := desk.run_faces asks faces
  have ended := @leaves_tells σ left verdict lines complaints session log code told
  rw [← ran] at ended
  refine ended.imp_right ?_
  rintro ⟨text, member, stumbles⟩
  rcases List.mem_append.mp member with line | own
  · rcases before text line with among | ⟨shown, read⟩
    · exact ⟨text, List.mem_append_left _ among, stumbles⟩
    · exact absurd read (stumbles.unshown shown)
  · exact ⟨text, List.mem_append_right _ own, stumbles⟩

/-- A message that cannot be shown ends the command line. -/
theorem run_stumbles {complaint : Complaint} (member : complaint ∈ complaints)
    (unshown : ∀ lines, Screen.linesOf complaint.text ≠ .ok lines) :
    ∃ text, (desk.run tree engine arguments).Stumbles text := by
  rcases run_tells asks faces with tells | ⟨text, -, stumbles⟩
  · obtain ⟨lines, shown⟩ := tells.readable member
    exact absurd shown (unshown lines)
  · exact ⟨text, stumbles⟩

end Desk

/-- A command line that comes upon messages ends with the code for failure and the lines of all their texts, or at a
text that cannot be shown. It tells them in full where each is read as it stands and what it tells before them can be
shown; and of messages in which no names stand between colons it tells no others in full. -/
theorem run_messages {arguments : List String} {log : LogSettings} {engine : σ} {announced : List String}
    {complaints : List Complaint} (asks : desk.Asks arguments log request)
    (faces : desk.Faces tree engine request announced complaints) :
    let outcome := desk.run tree engine arguments
    (outcome.Tells complaints ∨ ∃ text ∈ announced ++ complaints.map Complaint.text, outcome.Stumbles text) ∧
    ((∀ text ∈ announced, ∃ lines, Screen.linesOf text = .ok lines) → (∀ complaint ∈ complaints, complaint.Clear) →
      outcome.InFull complaints) ∧
    ((∀ complaint ∈ complaints, Unnamed complaint.body.toList) → outcome.InFull complaints →
      ∀ complaint ∈ complaints, Verbatim complaint.body.toList) := by
  intro outcome
  have ended := desk.run_tells asks faces
  refine ⟨ended, fun shown clear => ?_, fun unnamed full => ?_⟩
  · rcases ended with tells | ⟨text, member, stumbles⟩
    · exact tells.inFull clear
    · refine False.elim ?_
      rcases List.mem_append.mp member with line | own
      · obtain ⟨lines, read⟩ := shown text line
        exact stumbles.unshown lines read
      · obtain ⟨complaint, among, rfl⟩ := List.mem_map.mp own
        obtain ⟨lines, read, -⟩ := (clear complaint among).shows
        exact stumbles.unshown lines read
  · rcases ended with tells | ⟨text, member, stumbles⟩
    · exact tells.verbatim full unnamed
    · exact absurd full.ends (stumbles.not_exited _)

/-! Names that no migration can have. -/

/-- A name that is no identifier is refused with a message that quotes it. -/
theorem Desk.faces_unusable {engine : σ} {word : String} {folder : Path} (task : request.task = .makeMigration word)
    (placed : desk.folder request = .ok folder) (unusable : isUsableName word = false) :
    desk.Faces tree engine request []
      [.error ("Migration name must be a Python identifier, got " ++ (Value.text word).quoted)] := by
  have refused : Migration.create tree (.text word) (.text folder.text) desk.now =
      (refuse (.of .migration ("Migration name must be a Python identifier, got " ++ (Value.text word).quoted)), tree) := by
    have named : usableName (.text word) =
        refuse (.of .migration ("Migration name must be a Python identifier, got " ++ (Value.text word).quoted)) := by
      change (if isUsableName word then Except.ok word else _) = _
      rw [unusable]
      rfl
    unfold Migration.create
    rw [named]
    rfl
  exact .creating task placed (by rw [refused]; rfl)

/-- The request to make a migration of a name. -/
def makingRequest (name : String) : Request := { task := .makeMigration name, folder := some (Path.ofText "m") }

/-- A name that is refused is told as it was given. -/
theorem run_messages_hyphen :
    let outcome := calmDesk.run {} {} ["make-migration", "add-users", "-m", "m"]
    outcome.ending = .exited (.int 1) ∧ Screen.seen outcome.screen.complaints =
      ink "Error: Migration name must be a Python identifier, got 'add-users'".toList := by
  intro outcome
  have message : "Migration name must be a Python identifier, got " ++ (Value.text "add-users").quoted =
      "Migration name must be a Python identifier, got 'add-users'" := by decide +kernel
  obtain ⟨log, asks⟩ : ∃ log, calmDesk.Asks ["make-migration", "add-users", "-m", "m"] log (makingRequest "add-users") :=
    ⟨_, ⟨_, _, rfl, rfl⟩, rfl⟩
  obtain ⟨folder, placed⟩ : ∃ folder, calmDesk.folder (makingRequest "add-users") = .ok folder := ⟨_, rfl⟩
  have faces := @Desk.faces_unusable _ calmDesk _ {} {} _ _ rfl placed (by decide +kernel)
  rw [message] at faces
  have clear : (Complaint.error "Migration name must be a Python identifier, got 'add-users'").Clear := by
    have leading : isLeading "Migration name must be a Python identifier, got 'add-users'".toList = true := by decide +kernel
    have verbatim := Verbatim.nil.led leading
    rw [List.append_nil] at verbatim
    exact ⟨verbatim, show Steady "Migration name must be a Python identifier, got 'add-users'".toList by decide +kernel⟩
  have full : outcome.InFull [.error "Migration name must be a Python identifier, got 'add-users'"] :=
    (run_messages asks faces).2.1 nofun (List.forall_mem_singleton.mpr clear)
  have seen := full.seen
  have plain : (Complaint.error "Migration name must be a Python identifier, got 'add-users'").plain =
      "Error: Migration name must be a Python identifier, got 'add-users'" := by decide +kernel
  rw [List.flatMap_singleton, plain] at seen
  exact ⟨full.ends, seen⟩

/-- A name that is a closing tag ends the command line where it is told. -/
theorem run_messages_closing :
    let outcome := calmDesk.run {} {} ["make-migration", "[/x]", "-m", "m"]
    let complaint := Complaint.error "Migration name must be a Python identifier, got '[/x]'"
    calmDesk.Faces {} {} (makingRequest "[/x]") [] [complaint] ∧ ¬ outcome.InFull [complaint] ∧
      ∃ misuse, outcome.ending = .died (.misuse misuse) := by
  intro outcome complaint
  have message : "Migration name must be a Python identifier, got " ++ (Value.text "[/x]").quoted =
      "Migration name must be a Python identifier, got '[/x]'" := by decide +kernel
  obtain ⟨log, asks⟩ : ∃ log, calmDesk.Asks ["make-migration", "[/x]", "-m", "m"] log (makingRequest "[/x]") :=
    ⟨_, ⟨_, _, rfl, rfl⟩, rfl⟩
  obtain ⟨folder, placed⟩ : ∃ folder, calmDesk.folder (makingRequest "[/x]") = .ok folder := ⟨_, rfl⟩
  have faces := @Desk.faces_unusable _ calmDesk _ {} {} _ _ rfl placed (by decide +kernel)
  rw [message] at faces
  have spelled : "Migration name must be a Python identifier, got '[/x]'".toList =
      "Migration name must be a Python identifier, got '".toList ++ '[' :: '/' :: (['x'] ++ ']' :: ['\x27']) := by
    decide +kernel
  obtain ⟨misuse, unread⟩ := complaint.linesOf_stray spelled (List.all_eq_true.mp (by decide +kernel))
    (List.all_eq_true.mp (by decide))
  obtain ⟨text, stumbles⟩ : ∃ text, outcome.Stumbles text := Desk.run_stumbles asks faces List.mem_cons_self fun lines => by
    rw [unread]
    nofun
  obtain ⟨misuse', -, died⟩ := id stumbles
  exact ⟨faces, fun full => stumbles.not_exited _ full.ends, misuse', died⟩

end DataLayer.Command
