import Counterpart.Outcome
import Counterpart.Style
import Counterpart.Table

/-! Candidate reports as a table. Paths are printed as console markup; the status is styled. -/

namespace Counterpart

namespace CandidateReport

def statusText (r : CandidateReport) : Text :=
  match r.error with
  | none => r.status.word
  | some error => r.status.word ++ ": " ++ error

def statusStyle (r : CandidateReport) : Style :=
  ⟨if r.status = .present then .green else .yellow, .none⟩

/-- The markup of the cells. -/
def cells (r : CandidateReport) : List Text :=
  [Text.ofInt r.precedence, r.path, r.statusStyle.apply r.statusText]

end CandidateReport

/-- A cell as it is printed. -/
def renderCell (d : Display) (markup : Text) : Except MarkupError Markup.Rendered :=
  (Markup.render d markup).map (·.filter (!Text.isDropped ·))

/-- All cells are read before any of them is printed. -/
def candidateTable (d : Display) (reports : List CandidateReport) : Except MarkupError Table := do
  let rows ← reports.mapM fun (r : CandidateReport) => r.cells.mapM (renderCell d)
  return {
    pageWidth := d.width
    title := "Counterpart candidates"
    columns := [
      { heading := "#", alignment := .right },
      { heading := "Path", overflow := .fold },
      { heading := "Status" }]
    rows }

end Counterpart
