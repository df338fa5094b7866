import DataLayer.Command.Screen
import DataLayer.Proofs.Markup.Reading
import DataLayer.Proofs.Migration.FileName
import DataLayer.Proofs.Terminal.Wrapping

/-! What commands can show. Nothing can be shown that cannot be read as markup, and a text that nothing in it
marks up can always be shown. -/

namespace DataLayer.Command

open DataLayer.Markup DataLayer.Terminal DataLayer.Text

namespace Screen

/-- A text is shown where what it says can be shown. -/
theorem linesOf_ok {text : String} {marked : Marked} (read : Marked.ofText text = .ok marked)
    (showable : Showable marked) : ∃ lines, linesOf text = .ok lines := by
  have same : accented marked = marked := by
    unfold accented
    rw [List.contains_eq_mem, decide_eq_false showable.unjoined]
    rfl
  obtain ⟨lines, wrapped, each⟩ := wrap_ok showable width false
  obtain ⟨shown, limits, -⟩ : ∃ shown, (lines.mapM fun line => limited width line.runs) = .ok shown ∧ ∀ row ∈ shown, True :=
    mapM_formed fun line member => (limited_ok (each line member) width).imp fun _ limited => ⟨limited, trivial⟩
  unfold linesOf
  rw [read, ok_bind, same, wrapped, ok_bind, forM_passed fun line member => (each line member).checkStyles, ok_bind, limits]
  exact ⟨_, rfl⟩

theorem linesAfter_ended (line : List Char) (isOpen : Bool) (chars : List Char) :
    linesAfter line isOpen (chars ++ ['\n']) ≠ [] := by
  induction chars generalizing line isOpen with
  | nil => exact List.cons_ne_nil _ _
  | cons c rest ih =>
    rw [List.cons_append]
    unfold linesAfter
    split
    next none => cases none
    next => exact List.cons_ne_nil _ _
    next first later _ equal =>
      obtain ⟨rfl, rfl⟩ := List.cons.inj equal
      split
      · exact List.cons_ne_nil _ _
      · exact ih _ _

theorem readBack_ne_nil {lines : List String} (some : lines ≠ []) : readBack lines ≠ [] := by
  obtain ⟨line, rest, rfl⟩ := List.exists_cons_of_ne_nil some
  have read : Text.lines (line ++ "\n") ≠ [] := by
    unfold Text.lines
    rw [String.toList_append]
    exact fun none => linesAfter_ended [] false line.toList (List.map_eq_nil_iff.mp none)
  exact List.append_ne_nil_of_left_ne_nil read _

/-- The stages at which a text is shown. -/
theorem linesOf_stages {text : String} {lines : List String} (shown : linesOf text = .ok lines) :
    ∃ marked rows pieces, Marked.ofText text = .ok marked ∧ wrap width false (accented marked) = .ok rows ∧
      (rows.mapM fun line => limited width line.runs) = .ok pieces ∧
      lines = readBack (pieces.map fun row => String.ofList row.flatten) := by
  unfold linesOf at shown
  rcases read : Marked.ofText text with misuse | marked
  · rw [read] at shown
    cases shown
  rw [read, ok_bind] at shown
  rcases wrapped : wrap width false (accented marked) with misuse | rows
  · rw [wrapped] at shown
    cases shown
  rw [wrapped, ok_bind] at shown
  rcases checked : rows.forM Marked.checkStyles with misuse | nothing
  · rw [checked] at shown
    cases shown
  rw [checked, ok_bind] at shown
  rcases limits : (rows.mapM fun line => limited width line.runs) with misuse | pieces
  · rw [limits] at shown
    cases shown
  rw [limits, ok_bind] at shown
  cases shown
  exact ⟨marked, rows, pieces, rfl, wrapped, limits, rfl⟩

/-- What is shown has a line. -/
theorem linesOf_ne_nil {text : String} {lines : List String} (shown : linesOf text = .ok lines) : lines ≠ [] := by
  obtain ⟨marked, rows, pieces, -, wrapped, limits, rfl⟩ := linesOf_stages shown
  obtain ⟨row, rest, rfl⟩ := List.exists_cons_of_ne_nil (wrap_ne_nil wrapped)
  obtain ⟨first, others, -, -, rfl⟩ := List.forall₂_cons_left_iff.mp (forall₂_of_mapM limits)
  exact readBack_ne_nil (List.cons_ne_nil _ _)

/-- Holds of characters that mean nothing but themselves, wherever they stand. -/
def isMild (c : Char) : Bool := isBare c && c != ':' && c != joiner

theorem isMild_iff {c : Char} : isMild c = true ↔ isBare c = true ∧ c ≠ ':' ∧ c ≠ joiner := by
  simp [isMild, and_assoc]

theorem bare_of_mild {chars : List Char} (mild : ∀ c ∈ chars, isMild c = true) : ∀ c ∈ chars, isBare c = true :=
  fun c member => (isMild_iff.mp (mild c member)).1

theorem colons_of_mild {chars : List Char} (mild : ∀ c ∈ chars, isMild c = true) : ':' ∉ chars :=
  fun member => (isMild_iff.mp (mild _ member)).2.1 rfl

theorem unjoined_of_mild {chars : List Char} (mild : ∀ c ∈ chars, isMild c = true) : joiner ∉ chars :=
  fun member => (isMild_iff.mp (mild _ member)).2.2 rfl

theorem written_mild {chars : List Char} (mild : ∀ c ∈ chars, isMild c = true) : joiner ∉ written chars := by
  unfold written
  rw [withPictures_plain (colons_of_mild mild)]
  exact fun member => unjoined_of_mild mild (List.mem_filter.mp member).1

/-- A text that marks nothing up can be shown. -/
theorem linesOf_mild {text : String} (mild : text.toList.all isMild = true) (filled : text ≠ "") :
    ∃ lines, linesOf text = .ok lines := by
  have each : ∀ c ∈ text.toList, isMild c = true := List.all_eq_true.mp mild
  exact linesOf_ok (ofText_bare (bare_of_mild each) filled) ⟨written_mild each, nofun⟩

/-- The characters of a file name mark nothing up. -/
theorem isMild_of_isFileName {name : String} (named : Migration.isFileName name = true) :
    ∀ c ∈ name.toList, isMild c = true := by
  intro c member
  have allowed := Migration.isFileName_mem named c member
  have apart {other : Char} (foreign : Migration.isFileNameChar other = false) : c ≠ other := fun same => by
    rw [same, foreign] at allowed
    cases allowed
  have opens : c ≠ '[' := apart (by decide)
  have keeps : c ≠ '\\' := apart (by decide)
  have points : c ≠ ':' := apart (by decide)
  have joins : c ≠ joiner := apart (by decide)
  simp [isMild, isBare, opens, keeps, points, joins]

/-! Messages. -/

/-- A message in which nothing is marked up and no picture joins. -/
structure Plain (message : String) : Prop where
  bare : ∀ c ∈ message.toList, isBare c = true
  unjoined : joiner ∉ written message.toList

theorem plain_of_mild {message : String} (mild : ∀ c ∈ message.toList, isMild c = true) : Plain message :=
  ⟨bare_of_mild mild, written_mild mild⟩

/-- What is told before a message with a colon leaves it as it is. -/
theorem Plain.announced {message front : String} (plain : Plain message) (mild : ∀ c ∈ front.toList, isMild c = true) :
    Plain (front ++ ": " ++ message) := by
  have spelled : (front ++ ": " ++ message).toList = front.toList ++ ':' :: ' ' :: message.toList := by simp
  have blank : withPictures (' ' :: message.toList) = ' ' :: withPictures message.toList := by
    rw [withPictures, if_neg (by decide)]
  refine ⟨?_, ?_⟩
  · rw [spelled]
    exact List.forall_mem_append.mpr ⟨bare_of_mild mild,
      List.forall_mem_cons.mpr ⟨by decide, List.forall_mem_cons.mpr ⟨by decide, plain.bare⟩⟩⟩
  · unfold written
    rw [spelled, withPictures_colon (colons_of_mild mild) (by decide), blank]
    intro member
    rcases List.mem_append.mp (List.mem_filter.mp member).1 with before | later
    · exact unjoined_of_mild mild before
    · rcases List.mem_cons.mp later with colon | later
      · exact absurd colon (by decide)
      · rcases List.mem_cons.mp later with space | later
        · exact absurd space (by decide)
        · exact plain.unjoined (List.mem_filter.mpr ⟨later, (List.mem_filter.mp member).2⟩)

/-- What is said of a name that was worked on can be shown, where the name marks nothing up. -/
theorem linesOf_done {word name : String} (mild : ∀ c ∈ word.toList, isMild c = true)
    (mild' : ∀ c ∈ name.toList, isMild c = true) :
    ∃ lines, linesOf (word ++ ": " ++ name ++ "... [green]DONE[/green]") = .ok lines := by
  have dotted : ∀ c ∈ (name ++ "... ").toList, isMild c = true := by
    rw [String.toList_append]
    exact List.forall_mem_append.mpr ⟨mild', List.all_eq_true.mp (by decide)⟩
  have front := (plain_of_mild dotted).announced mild
  have whole : (word ++ ": " ++ name ++ "... [green]DONE[/green]").toList = (word ++ ": " ++ (name ++ "... ")).toList ++
      '[' :: ("green".toList ++ ']' :: ("DONE".toList ++ '[' :: '/' :: ("green".toList ++ [']']))) := by
    simp
  have mild'' : ∀ c ∈ "DONE".toList, isMild c = true := List.all_eq_true.mp (by decide)
  have read := ofText_styled isStyleName_green whole (by simp) (by decide) front.bare (bare_of_mild mild'')
  refine linesOf_ok read ⟨?_, ?_⟩
  · exact fun member => (List.mem_append.mp member).elim front.unjoined (written_mild mild'')
  · intro span member words styled
    rw [List.mem_singleton.mp member] at styled
    cases styled
    exact ⟨_, ofText?_green⟩

theorem linesOf_migrating {name : String} (named : Migration.isFileName name = true) :
    ∃ lines, linesOf ("Migrating: " ++ name ++ "... [green]DONE[/green]") = .ok lines := by
  have word : "Migrating: " = "Migrating" ++ ": " := by decide
  rw [word]
  exact linesOf_done (List.all_eq_true.mp (by decide)) (isMild_of_isFileName named)

/-- A text without tags after a word in a style is read, and can be shown where nothing in it joins. -/
theorem ofText_showable {text name : String} {word rest : List Char} (isName : IsStyleName name)
    (whole : text.toList = '[' :: (name.toList ++ ']' :: (word ++ '[' :: '/' :: (name.toList ++ ']' :: rest))))
    (some : word ≠ []) (some' : rest ≠ []) (mild : ∀ c ∈ word, isMild c = true) (untagged : Untagged rest)
    (unjoined : joiner ∉ written (unescaped rest)) :
    ∃ marked, Marked.ofText text = .ok marked ∧ marked.chars = written word ++ written (unescaped rest) ∧
      Showable marked := by
  refine ⟨_, ofText_headed isName whole some some' (bare_of_mild mild) untagged, rfl, ?_, ?_⟩
  · exact fun member => (List.mem_append.mp member).elim (written_mild mild) unjoined
  · intro span member words styled
    rw [List.mem_singleton.mp member] at styled
    cases styled
    obtain ⟨style, known⟩ := isName.style
    exact ⟨_, known⟩

/-- A plain text after a word in a style can be shown. -/
theorem linesOf_headed {text name rest : String} {word : List Char} (isName : IsStyleName name)
    (whole : text.toList = '[' :: (name.toList ++ ']' :: (word ++ '[' :: '/' :: (name.toList ++ ']' :: rest.toList))))
    (some : word ≠ []) (some' : rest ≠ "") (mild : ∀ c ∈ word, isMild c = true) (plain : Plain rest) :
    ∃ lines, linesOf text = .ok lines := by
  have unjoined := plain.unjoined
  rw [← unescaped_bare plain.bare] at unjoined
  obtain ⟨marked, read, -, showable⟩ := ofText_showable isName whole some (String.toList_eq_nil_iff.not.mpr some') mild
    (untagged_of_bare plain.bare) unjoined
  exact linesOf_ok read showable

/-- A plain message is shown as an error. -/
theorem linesOf_error {message : String} (plain : Plain message) :
    ∃ lines, linesOf ("[bold red]Error[/bold red]: " ++ message) = .ok lines := by
  have announced : Plain ("" ++ ": " ++ message) := plain.announced nofun
  refine linesOf_headed isStyleName_boldRed ?_ (show "Error".toList ≠ [] by decide) ?_ (List.all_eq_true.mp (by decide))
    announced
  · simp
  · simp

/-- So it is after the name of a file. -/
theorem linesOf_failed {file message : String} (mild : ∀ c ∈ file.toList, isMild c = true) (plain : Plain message) :
    ∃ lines, linesOf ("[red]FAILED[/red] " ++ file ++ ": " ++ message) = .ok lines := by
  have mild' : ∀ c ∈ (" " ++ file).toList, isMild c = true := by
    rw [String.toList_append]
    exact List.forall_mem_append.mpr ⟨List.all_eq_true.mp (by decide), mild⟩
  refine linesOf_headed isStyleName_red ?_ (show "FAILED".toList ≠ [] by decide) ?_ (List.all_eq_true.mp (by decide))
    (plain.announced mild')
  · simp
  · simp

/-! Things that are shown one after the other. -/

theorem addAll_lines {texts : List String} (shows : ∀ text ∈ texts, ∃ lines, linesOf text = .ok lines)
    (screen : Screen) : (screen.addAll (texts.map .line)).2 = none := by
  induction texts generalizing screen with
  | nil => rfl
  | cons text rest ih =>
    obtain ⟨⟨lines, shown⟩, later⟩ := List.forall_mem_cons.mp shows
    rw [List.map_cons, addAll, add, shown]
    exact ih later _

theorem of_map_ok {ε α β : Type} {result : Except ε α} {form : α → β} {value : β} (mapped : result.map form = .ok value) :
    ∃ given, result = .ok given ∧ form given = value := by
  cases result with
  | error fault => cases mapped
  | ok given => exact ⟨given, rfl, Except.ok.inj mapped⟩

/-- What stands beside the output stays there. -/
theorem add_complaints {screen next : Screen} {item : Shown} (added : screen.add item = .ok next) :
    screen.complaints <+: next.complaints := by
  cases item with
  | line text =>
    obtain ⟨lines, -, rfl⟩ := of_map_ok added
    exact List.prefix_refl _
  | complaint text =>
    obtain ⟨lines, -, rfl⟩ := of_map_ok added
    exact List.prefix_append _ _
  | table table =>
    obtain ⟨lines, -, rfl⟩ := of_map_ok added
    exact List.prefix_refl _

theorem addAll_complaints (items : List Shown) (screen : Screen) :
    screen.complaints <+: (screen.addAll items).1.complaints := by
  induction items generalizing screen with
  | nil => exact List.prefix_refl _
  | cons item rest ih =>
    unfold addAll
    cases added : screen.add item with
    | error misuse => exact List.prefix_refl _
    | ok next => exact (add_complaints added).trans (ih next)

/-- Where everything can be shown, the lines of each complaint stand beside the output. -/
theorem addAll_shows {items : List Shown} {screen last : Screen} (shown : screen.addAll items = (last, none))
    {text : String} (member : .complaint text ∈ items) :
    ∃ lines, linesOf text = .ok lines ∧ lines <:+: last.complaints := by
  induction items generalizing screen with
  | nil => cases member
  | cons item rest ih =>
    unfold addAll at shown
    cases added : screen.add item with
    | error misuse =>
      rw [added] at shown
      cases shown
    | ok next =>
      rw [added] at shown
      rcases List.mem_cons.mp member with rfl | later
      · obtain ⟨lines, told, rfl⟩ := of_map_ok added
        have grows := addAll_complaints rest { screen with complaints := screen.complaints ++ lines }
        dsimp only at shown
        rw [shown] at grows
        exact ⟨lines, told, (List.suffix_append screen.complaints lines).isInfix.trans grows.isInfix⟩
      · exact ih shown later

/-- Nothing is shown after a thing that cannot be shown. -/
theorem addAll_stops {items : List Shown} {screen last : Screen} {misuse : Misuse}
    (stopped : screen.addAll items = (last, some misuse)) :
    ∃ item ∈ items, ∃ before : Screen, before.add item = .error misuse := by
  induction items generalizing screen with
  | nil => cases stopped
  | cons item rest ih =>
    unfold addAll at stopped
    cases added : screen.add item with
    | error other =>
      rw [added] at stopped
      cases stopped
      exact ⟨item, List.mem_cons_self, _, added⟩
    | ok next =>
      rw [added] at stopped
      obtain ⟨other, member, fails⟩ := ih stopped
      exact ⟨other, List.mem_cons_of_mem item member, fails⟩

end Screen
end DataLayer.Command
