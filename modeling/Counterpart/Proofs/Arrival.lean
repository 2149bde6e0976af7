import Counterpart.Proofs.Listing
import Counterpart.Proofs.PlainHost
import Counterpart.Proofs.Positions

/-! The outcome of a toggle is true of the host after it: the document that is active, where its
cursor stands, and how both belong to the document that the toggle started from. -/

namespace Counterpart

/-- No line of a text defines the name. -/
def DefinesNowhere (keyword text name : Text) : Prop :=
  ∀ start line width, (start, line) ∈ lineStarts text → NamesAt keyword line width →
    (line.drop width).takeWhile isWord ≠ name

theorem definesNowhere_of_methodOffset? {conv : Conventions} {text action : Text}
    (h : '\n' ∉ conv.methodKeyword) (ha : action ≠ []) (hw : action.all isWord)
    (ho : methodOffset? conv text action = none) :
    DefinesNowhere conv.methodKeyword text action := by
  intro start line width hmem hn hname
  obtain ⟨d, hd, -, -, hdname⟩ := hn.exists_definitionAt? start
  have hdefs : d ∈ definitions conv.methodKeyword text := by
    rw [definitions_eq_filterMap h]
    exact List.mem_filterMap.2 ⟨(start, line), hmem, hd⟩
  rw [methodOffset?_eq_find? h ha hw, Option.map_eq_none_iff] at ho
  have hne := List.find?_eq_none.1 ho d hdefs
  exact hne (by simpa using hdname.trans hname)

/-- The outcome gives the path of a document and its cursor, which stands inside the text, both as
an offset and as a position. -/
structure Outcome.Describes (o : Outcome) (doc : Document) : Prop where
  path : o.targetPath = some doc.path
  cursor : o.cursorOffset = some doc.cursor
  nonneg : 0 ≤ doc.cursor
  le_length : doc.cursor ≤ doc.text.length
  line : o.line = some ((positionOf doc.text doc.cursor).line : Int)
  column : o.column = some ((positionOf doc.text doc.cursor).column : Int)
  offset : (offsetOf doc.text (positionOf doc.text doc.cursor).line
    (positionOf doc.text doc.cursor).column : Int) = doc.cursor

theorem Outcome.ofDocument_describes (status : Status) (message action : Text) {doc : Document}
    (hpos : 0 ≤ doc.cursor) (hle : doc.cursor ≤ doc.text.length) :
    (ofDocument status message doc action).Describes doc where
  path := rfl
  cursor := rfl
  nonneg := hpos
  le_length := hle
  line := rfl
  column := rfl
  offset := offsetOf_positionOf_of_le hpos hle

/-- Where the action of a lookup comes from: the cursor of a controller, or the path of a view. -/
theorem Lookup.find_action {conv : Conventions} {doc : Document} {root : Path} {found : Lookup}
    (h : Lookup.find conv doc root = .ok found) :
    classify conv doc.path = .controller ∧ found.kind = .controller ∧
        enclosingMethod? conv doc.text doc.cursor = some found.action ∨
      classify conv doc.path = .view ∧ found.kind = .view ∧
        found.action ≠ [] ∧ found.action.all isWord := by
  rw [← classify_forwardSlashes]
  rcases Lookup.find_cases h with
    ⟨identity, action, hkind, -, haction, rfl⟩ | ⟨identity, action, hkind, htarget, rfl⟩
  · exact .inl ⟨hkind, rfl, haction⟩
  · exact .inr ⟨hkind, rfl, (viewTarget?_within htarget).2⟩

namespace LocalHost

variable {conv : Conventions} {host : LocalHost}

/-- A document that was opened with its cursor at the start is described by the outcome of having
arrived at it. -/
theorem arrival_describes (found : Lookup) {opened : Document} (h : opened.cursor = 0) :
    (arrival conv found opened).1.Describes (arrival conv found opened).2 := by
  have hstart (status : Status) (message : Text) :
      (Outcome.ofDocument status message opened found.action).Describes opened :=
    Outcome.ofDocument_describes status message found.action (by omega) (by omega)
  rw [arrival]
  split
  · exact hstart _ _
  · split
    · exact hstart _ _
    · next offset ho =>
      have hle := methodOffset?_le ho
      exact Outcome.ofDocument_describes _ _ _ (Int.natCast_nonneg offset) (by dsimp only; omega)

theorem arrival_action (found : Lookup) (opened : Document) :
    (arrival conv found opened).1.action = some found.action := by
  rw [arrival]
  split
  · rfl
  · split <;> rfl

/-- Coming from a view, the cursor is on the action, or it is at the start of a text that does not
define the action. -/
theorem arrival_from_view (h : '\n' ∉ conv.methodKeyword) {found : Lookup} {opened : Document}
    (hk : found.kind = .view) (ha : found.action ≠ []) (hw : found.action.all isWord)
    (hc : opened.cursor = 0) :
    let (outcome, doc) := arrival conv found opened
    (outcome.status = .opened →
      enclosingMethod? conv doc.text doc.cursor = some found.action) ∧
    (outcome.status = .partly →
      doc.cursor = 0 ∧ DefinesNowhere conv.methodKeyword doc.text found.action) := by
  rw [arrival, hk]
  dsimp only
  split
  · next ho =>
    refine ⟨fun hstatus => ?_, fun _ => ⟨hc, definesNowhere_of_methodOffset? h ha hw ho⟩⟩
    cases hstatus
  · next offset ho =>
    refine ⟨fun _ => enclosingMethod?_methodOffset? h ha hw ho, fun hstatus => ?_⟩
    cases hstatus

theorem attempted_describes (h : '\n' ∉ conv.methodKeyword) {outcome : Outcome} {doc : Document}
    (ha : host.attempted conv = .ok (outcome, doc)) :
    outcome.status ≠ .failed ∧ outcome.Describes doc ∧ ∃ start action, host.active = some start ∧
      outcome.action = some action ∧
      (classify conv start.path = .controller ∧ outcome.status = .opened ∧ doc.cursor = 0 ∧
          enclosingMethod? conv start.text start.cursor = some action ∨
        classify conv start.path = .view ∧
          (outcome.status = .opened →
            enclosingMethod? conv doc.text doc.cursor = some action) ∧
          (outcome.status = .partly →
            doc.cursor = 0 ∧ DefinesNowhere conv.methodKeyword doc.text action)) := by
  obtain ⟨found, path, opened, hs, -, hload, harrival⟩ := attempted_ok ha
  obtain ⟨start, root, hfocused, hfind⟩ := sought_ok (started_ok hs).1
  obtain ⟨hactive, -⟩ := focused_ok hfocused
  have hcursor : opened.cursor = 0 := by
    obtain ⟨text, real, -, -, rfl⟩ := loaded_ok hload
    rfl
  have hdescribes := @arrival_describes conv found opened hcursor
  have haction := @arrival_action conv found opened
  have hstatus := (@arrival_outcome conv found opened).1
  rw [harrival] at hdescribes haction hstatus
  have hne : outcome.status ≠ .failed := by
    intro hfailed
    simp [hfailed] at hstatus
  refine ⟨hne, hdescribes, start, found.action, hactive, haction, ?_⟩
  rcases Lookup.find_action hfind with ⟨hclass, hk, henclosing⟩ | ⟨hclass, hk, hne, hword⟩
  · rw [arrival, hk] at harrival
    obtain ⟨rfl, rfl⟩ := Prod.mk.inj harrival
    exact .inl ⟨hclass, rfl, hcursor, henclosing⟩
  · have hview := arrival_from_view h hk hne hword hcursor
    rw [harrival] at hview
    exact .inr ⟨hclass, hview⟩

/-- What a toggle says is so. If it fails it says nothing of a document. If it does not, the
document it names is active with the cursor where it says, which is on the action when that was
looked up from a view, and the start of the view when the cursor was in an action. -/
theorem toggle_describes_host (conv : Conventions) (h : '\n' ∉ conv.methodKeyword)
    (w : Journaled LocalHost) :
    ∃ outcome w', Session.step (navigator conv {}) w .toggle = (.ok (.outcome outcome), w') ∧
      (outcome.status = .failed →
        outcome.targetPath = none ∧ outcome.action = none ∧ outcome.cursorOffset = none ∧
          outcome.line = none ∧ outcome.column = none) ∧
      (outcome.status ≠ .failed → ∃ start doc action,
        w.state.active = some start ∧ w'.state.active = some doc ∧ outcome.Describes doc ∧
        outcome.action = some action ∧
        (classify conv start.path = .controller ∧ outcome.status = .opened ∧ doc.cursor = 0 ∧
            enclosingMethod? conv start.text start.cursor = some action ∨
          classify conv start.path = .view ∧
            (outcome.status = .opened →
              enclosingMethod? conv doc.text doc.cursor = some action) ∧
            (outcome.status = .partly →
              doc.cursor = 0 ∧ DefinesNowhere conv.methodKeyword doc.text action))) := by
  obtain ⟨journal, hstep⟩ := @step_toggle conv w
  refine ⟨_, _, hstep, ?_⟩
  cases ha : w.state.attempted conv with
  | error e =>
    have hfailed : (Navigator.outcomeOf e).status = .failed ∧
        (Navigator.outcomeOf e).targetPath = none ∧ (Navigator.outcomeOf e).action = none ∧
        (Navigator.outcomeOf e).cursorOffset = none ∧ (Navigator.outcomeOf e).line = none ∧
        (Navigator.outcomeOf e).column = none := by
      cases e <;> exact ⟨rfl, rfl, rfl, rfl, rfl, rfl⟩
    rw [toggled_of_error ha]
    exact ⟨fun _ => hfailed.2, fun hne => absurd hfailed.1 hne⟩
  | ok arrived =>
    obtain ⟨outcome, doc⟩ := arrived
    obtain ⟨hne, hdescribes, start, action, hstart, haction, hkind⟩ := attempted_describes h ha
    have hactive : (w.state.toggled conv).2.active = some doc := by
      rw [toggled, ha]
      rfl
    rw [toggled_of_ok ha]
    exact ⟨fun hfailed => absurd hfailed hne,
      fun _ => ⟨start, doc, action, hstart, hactive, hdescribes, haction, hkind⟩⟩

/-- A host that holds a view whose action is the second of two in its controller, after one with a
longer name. The text of the controller ends in the name. -/
def reviews : LocalHost where
  files := {
    entries := [
      (["ws"], .directory),
      (["ws", "app"], .directory),
      (["ws", "app", "controllers"], .directory),
      (["ws", "app", "controllers", "reviews_controller.rb"], .file
        [0x64, 0x65, 0x66, 0x20, 0xC3, 0xA9, 0x61, 0x0A, 0x20, 0x20, 0x64, 0x65, 0x66, 0x20, 0xC3,
          0xA9])]
    workingDirectory := [] }
  folders := ["/ws"]
  active := some ⟨"/ws/app/views/reviews/é.html.erb", "a review", 7⟩
  messages := []
  console := none

theorem reviews_described :
    ∃ outcome w' doc, Session.step (navigator .standard {}) reviews.journaled .toggle =
        (.ok (.outcome outcome), w') ∧ outcome.status = .opened ∧ w'.state.active = some doc ∧
      outcome.Describes doc ∧ outcome.cursorOffset = some 14 ∧
      enclosingMethod? .standard doc.text doc.cursor = some "é" := by
  have hrun : ((navigator .standard {}).toggle.run.run reviews.journaled).1.toOption.map
      (fun o => (o.status, o.action, o.cursorOffset)) =
        some (Status.opened, some ("é" : Text), some (14 : Int)) := by
    decide +kernel
  obtain ⟨outcome, w', hstep, -, hdescribed⟩ :=
    toggle_describes_host .standard (by decide) reviews.journaled
  rcases htoggle : (navigator .standard {}).toggle.run.run reviews.journaled with ⟨e | o, w₁⟩
  · rw [htoggle] at hrun
    cases hrun
  obtain ⟨hok, -⟩ := Prod.mk.inj ((Act.run_bind_of_ok _ htoggle).symm.trans hstep)
  obtain rfl := StepResult.outcome.inj (Except.ok.inj hok)
  rw [htoggle] at hrun
  obtain ⟨hstatus, hrest⟩ := Prod.mk.inj (Option.some.inj hrun)
  obtain ⟨haction, hcursor⟩ := Prod.mk.inj hrest
  obtain ⟨start, doc, action, hstart, hactive, hdescribes, ha, hkind⟩ :=
    hdescribed (by simp [hstatus])
  obtain rfl := Option.some.inj (ha.symm.trans haction)
  obtain rfl := Option.some.inj hstart
  refine ⟨_, w', doc, hstep, hstatus, hactive, hdescribes, hcursor, ?_⟩
  rcases hkind with ⟨hclass, -⟩ | ⟨-, hopened, -⟩
  · exact absurd hclass (by decide +kernel)
  · exact hopened hstatus

end LocalHost
end Counterpart
