import Counterpart.Proofs.CommandHosts
import Counterpart.Proofs.Positions

/-! Whole command lines about a file and a position. However the position is given, the same host
is opened, so that the run ends in the same way; and a toggle ends as its outcome says. -/

namespace Counterpart.CommandLine

def Command.word : Command → Text
  | .toggle => "toggle"
  | .candidates => "candidates"

/-- A command line but for the position. -/
structure Invocation where
  settings : Settings
  naming : Naming
  files : FileTree
  globals : List Text
  command : Command
  /-- The arguments of the command before the position. -/
  front : List Text
  /-- The arguments of the command after the position. -/
  back : List Text

namespace Invocation

def run (inv : Invocation) (p : Placement) : Ending :=
  (CommandLine.run inv.settings inv.naming inv.files
    (inv.globals ++ inv.command.word :: (inv.front ++ (p.args ++ inv.back)))).ending

def withJson (inv : Invocation) : Invocation := { inv with front := "--json" :: inv.front }

/-- All but the position is in order: the arguments name one file, which can be read as a text once
the journal is open, and workspaces, which have real paths. -/
structure Serves (inv : Invocation) (opened : FileTree) (file : Text) (workspaces : List Text)
    (json : Bool) (text : Text) : Prop where
  globals : ∃ g level, Arguments.read globalForms false inv.globals = .ok g ∧ g.positionals = [] ∧
    g.has .help = false ∧ threshold inv.settings g = .ok level
  unended : ['-', '-'] ∉ inv.globals ++ inv.front
  arguments : ∃ a b, Arguments.read (commandForms inv.command) true inv.front = .ok a ∧
    Arguments.read (commandForms inv.command) true inv.back = .ok b ∧ Unplaced a ∧ Unplaced b ∧
    (a ++ b).positionals = [file] ∧ (a ++ b).values .workspace = workspaces ∧
    ((a ++ b).has .json || inv.settings.jsonOutput) = json
  log : openLog inv.settings inv.naming inv.files = .ok opened
  directory : opened.IsDirect opened.workingDirectory
  folders : ∀ s ∈ workspaces, ∃ real, opened.resolve (.ofText s) = .ok real
  readable : opened.readText (.ofText file) = .ok text

namespace Serves

variable {inv : Invocation} {opened : FileTree} {file text : Text} {workspaces : List Text}
variable {json : Bool}

theorem run_eq (h : inv.Serves opened file workspaces json text) (p : Placement) :
    inv.run p = (runCommand inv.settings opened inv.command
      (inv.front ++ (p.args ++ inv.back))).1 := by
  obtain ⟨g, level, hg, hnone, hhelp, hlevel⟩ := h.globals
  have hunended : ['-', '-'] ∉ inv.globals := fun hmem => h.unended (List.mem_append_left _ hmem)
  have hword : Arguments.read globalForms false
      (inv.command.word :: (inv.front ++ (p.args ++ inv.back))) =
        .ok ⟨[], inv.command.word :: (inv.front ++ (p.args ++ inv.back))⟩ := by
    cases inv.command <;> rfl
  have hread := Arguments.read_append hg (.inr hnone) hunended
    (inv.command.word :: (inv.front ++ (p.args ++ inv.back)))
  have hhas (option : GlobalOption) (rest : List Text) :
      (g ++ (⟨[], rest⟩ : Arguments GlobalOption)).has option = g.has option := by
    rw [Arguments.has_append]
    exact Bool.or_false _
  have hlevel' (rest : List Text) : threshold inv.settings (g ++ ⟨[], rest⟩) = .ok level := by
    rw [threshold, hhas, hhas]
    exact hlevel
  have hpositionals (rest : List Text) :
      (g ++ (⟨[], rest⟩ : Arguments GlobalOption)).positionals = rest := by
    rw [Arguments.append_eq, hnone, List.nil_append]
  have hcommand : Command.ofWord? inv.command.word = some inv.command := by
    cases inv.command <;> rfl
  rw [run, CommandLine.run, hread, hword, Except.map]
  dsimp only
  rw [hhas, hhelp, if_neg Bool.false_ne_true, hpositionals]
  dsimp only
  rw [hcommand]
  dsimp only
  rw [hlevel', h.log]

theorem runCommand_eq (h : inv.Serves opened file workspaces json text) : ∃ j, ∀ p : Placement,
    (p.IsAccepted → inv.run p = (match inv.command with
      | .toggle => toggle inv.settings.display opened (p.request file workspaces j) json
      | .candidates => candidates inv.settings.display opened (p.request file workspaces j)).1) ∧
    (¬ p.IsAccepted → (inv.run p).exitCode = 2) := by
  obtain ⟨a, b, ha, hb, hua, hub, hfile, hworkspaces, hjson⟩ := h.arguments
  have hunended : ['-', '-'] ∉ inv.front := fun hmem => h.unended (List.mem_append_right _ hmem)
  refine ⟨(a ++ b).has .json, fun p => ?_⟩
  have hread : Arguments.read (commandForms inv.command) true (inv.front ++ (p.args ++ inv.back)) =
      .ok (a ++ (p.arguments ++ b)) := by
    rw [Arguments.read_append ha (.inl rfl) hunended, Placement.read_args, hb]
    rfl
  have hhelp : (a ++ (p.arguments ++ b)).has .help = false := by
    have hnone : p.arguments.has .help = false := by cases p <;> rfl
    rw [Arguments.has_append, Arguments.has_append, hua.has_help, hub.has_help, hnone]
    rfl
  rw [h.run_eq, runCommand, hread]
  dsimp only
  rw [hhelp, if_neg Bool.false_ne_true]
  constructor
  · intro hp
    rw [hua.ofArguments_of_accepted hub hfile hp, hworkspaces, ← hjson]
    cases p <;> rfl
  · intro hp
    obtain ⟨e, he⟩ := hua.ofArguments_of_not_accepted hub hfile hp
    rw [he]
    rfl

theorem openHost_eq (h : inv.Serves opened file workspaces json text) :
    ∃ places path, ∀ (p : Placement) (j withConsole : Bool), ∃ journal,
      openHost inv.settings.display opened (p.request file workspaces j) withConsole =
        .ok ⟨hostAt inv.settings.display opened places ⟨path, text, p.cursorIn text⟩ withConsole,
          journal⟩ := by
  obtain ⟨real, hreal⟩ := FileTree.exists_resolve_of_readText h.directory h.readable
  have hfolders : ∀ path ∈ CommandLine.folders opened workspaces,
      ∃ real, opened.resolve path = .ok real := by
    rw [CommandLine.folders]
    split
    · intro path hmem
      rw [List.mem_singleton.1 hmem]
      exact ⟨_, FileTree.resolve_of_isDirect h.directory⟩
    · intro path hmem
      obtain ⟨s, hs, rfl⟩ := List.mem_map.1 hmem
      exact h.folders s hs
  obtain ⟨places, hplaces⟩ := exists_mapM_ok hfolders
  refine ⟨places, forwardSlashes real.text, fun p j withConsole => ?_⟩
  exact CommandLine.openHost_eq hplaces h.readable hreal p j

theorem withJson (h : inv.Serves opened file workspaces json text) (hc : inv.command = .toggle) :
    inv.withJson.Serves opened file workspaces true text where
  globals := h.globals
  unended := by
    have hunended := h.unended
    simp only [List.mem_append, not_or] at hunended
    simp only [Invocation.withJson, List.mem_append, List.mem_cons, not_or]
    exact ⟨hunended.1, by decide, hunended.2⟩
  arguments := by
    obtain ⟨a, b, ha, hb, hua, hub, hfile, hworkspaces, -⟩ := h.arguments
    refine ⟨⟨[(.json, [])], []⟩ ++ a, b, ?_, hb, ?_, hub, hfile, hworkspaces, rfl⟩
    · have hjson : Arguments.readOption (commandForms inv.withJson.command) "--json" =
          .ok ⟨[(.json, [])], none⟩ := by
        rw [show inv.withJson.command = .toggle from hc]
        rfl
      have hread : Arguments.read (commandForms inv.command) true ("--json" :: inv.front) =
          (Arguments.read (commandForms inv.command) true inv.front).map
            (⟨[(.json, [])], []⟩ ++ ·) := Arguments.read_option (by decide) (by decide) hjson
      exact hread.trans (congrArg _ ha)
    · intro o ho
      rcases List.mem_cons.1 ho with rfl | ho
      · exact .inr rfl
      · exact hua o ho
  log := h.log
  directory := h.directory
  folders := h.folders
  readable := h.readable

/-- A run depends on the position only through the cursor. -/
theorem run_congr (h : inv.Serves opened file workspaces json text) {p q : Placement}
    (hp : p.IsAccepted) (hq : q.IsAccepted) (hc : p.cursorIn text = q.cursorIn text) :
    inv.run p = inv.run q := by
  obtain ⟨j, hrun⟩ := h.runCommand_eq
  obtain ⟨places, path, hopen⟩ := h.openHost_eq
  rw [(hrun p).1 hp, (hrun q).1 hq]
  cases inv.command with
  | toggle =>
    obtain ⟨journal, hopened⟩ := hopen p j (!json)
    obtain ⟨journal', hopened'⟩ := hopen q j (!json)
    rw [← hc] at hopened'
    exact (toggle_eq hopened).trans (toggle_eq hopened').symm
  | candidates =>
    obtain ⟨journal, hopened⟩ := hopen p j true
    obtain ⟨journal', hopened'⟩ := hopen q j true
    rw [← hc] at hopened'
    exact (candidates_eq hopened).trans (candidates_eq hopened').symm

/-- The outcome that a toggle comes to, with or without a console, and the line for it. -/
theorem exists_outcome (h : inv.Serves opened file workspaces json text) (p : Placement) :
    ∃ outcome line,
      (messageStyle outcome.level).line inv.settings.display outcome.message = .ok line ∧
      ∀ j, (∀ withConsole, ∃ w,
          openHost inv.settings.display opened (p.request file workspaces j) withConsole = .ok w ∧
            (navigator.toggle.run.run w).1 = .ok outcome) ∧
        ∀ json, (toggle inv.settings.display opened (p.request file workspaces j) json).1 =
          .ofOutcome outcome (if json then outcome.record.indented ++ ['\n'] else line) := by
  obtain ⟨places, path, hopen⟩ := h.openHost_eq
  have hsame (withConsole : Bool) :
      ((hostAt inv.settings.display opened places ⟨path, text, p.cursorIn text⟩
          withConsole).toggled .standard).1 =
        ((hostAt inv.settings.display opened places ⟨path, text, p.cursorIn text⟩
          false).toggled .standard).1 :=
    LocalHost.outcome_congr rfl rfl rfl
  generalize ((hostAt inv.settings.display opened places ⟨path, text, p.cursorIn text⟩
    false).toggled .standard).1 = outcome at hsame
  obtain ⟨line, hline⟩ :=
    (messageStyle outcome.level).exists_line inv.settings.display outcome.message
  refine ⟨outcome, line, hline, fun j => ⟨fun withConsole => ?_, fun json => ?_⟩⟩
  · obtain ⟨journal, hopened⟩ := hopen p j withConsole
    obtain ⟨after, hrun⟩ := @LocalHost.toggle_gives .standard
      (hostAt inv.settings.display opened places ⟨path, text, p.cursorIn text⟩ withConsole) journal
    refine ⟨_, hopened, ?_⟩
    rw [navigator, hrun, hsame]
  · obtain ⟨journal, hopened⟩ := hopen p j (!json)
    refine toggle_ending hopened ?_ (hsame _) hline
    cases json <;> rfl

theorem exitCode_eq_two_iff (h : inv.Serves opened file workspaces json text) (p : Placement) :
    (inv.run p).exitCode = 2 ↔ ¬ p.IsAccepted := by
  obtain ⟨j, hrun⟩ := h.runCommand_eq
  refine ⟨fun htwo hp => ?_, (hrun p).2⟩
  obtain ⟨places, path, hopen⟩ := h.openHost_eq
  rw [(hrun p).1 hp] at htwo
  cases hc : inv.command with
  | toggle =>
    obtain ⟨outcome, line, -, hended⟩ := h.exists_outcome p
    rw [hc] at htwo
    dsimp only at htwo
    rw [(hended j).2 json, exitCode_ofOutcome] at htwo
    split at htwo <;> cases htwo
  | candidates =>
    obtain ⟨journal, hopened⟩ := hopen p j true
    rw [hc] at htwo
    dsimp only at htwo
    rw [candidates_eq hopened] at htwo
    exact listed_exitCode _ _ htwo

end Serves
end Invocation

/-- A position and the offset it stands for end a run in the same way, and so do an offset, however
far it lies outside the text, and the position it stands for; only numerals of too many digits are
refused. The exit code of a toggle is 0 just when its outcome is no failure, and printing the
outcome as a record changes neither. -/
theorem positions_agree {inv : Invocation} {opened : FileTree} {file text : Text}
    {workspaces : List Text} {json : Bool}
    (h : inv.Serves opened file workspaces json text) :
    (∀ line column : Nat, (Placement.position line column).IsAccepted →
      (Placement.offset (offsetOf text line column)).IsAccepted →
      inv.run (.position line column) = inv.run (.offset (offsetOf text line column))) ∧
    (∀ n : Nat, (Placement.offset n).IsAccepted →
      (Placement.position (positionOf text n).line (positionOf text n).column).IsAccepted →
      inv.run (.offset n) =
        inv.run (.position (positionOf text n).line (positionOf text n).column)) ∧
    (∀ p : Placement, (inv.run p).exitCode = 2 ↔ ¬ p.IsAccepted) ∧
    (inv.command = .toggle → ∀ p : Placement, p.IsAccepted → ∃ outcome line,
      (messageStyle outcome.level).line inv.settings.display outcome.message = .ok line ∧
      (∀ j withConsole, ∃ w,
        openHost inv.settings.display opened (p.request file workspaces j) withConsole = .ok w ∧
        (navigator.toggle.run.run w).1 = .ok outcome) ∧
      inv.run p =
        .ofOutcome outcome (if json then outcome.record.indented ++ ['\n'] else line) ∧
      inv.withJson.run p = .ofOutcome outcome (outcome.record.indented ++ ['\n']) ∧
      ((inv.run p).exitCode = 0 ↔ outcome.status ≠ .failed) ∧
      (inv.withJson.run p).exitCode = (inv.run p).exitCode) := by
  refine ⟨fun line column hp hq => h.run_congr hp hq ?_, fun n hp hq => h.run_congr hp hq ?_,
    h.exitCode_eq_two_iff, fun hc p hp => ?_⟩
  · have hle := offsetOf_le text line column
    exact (clampOffset_natCast hle).symm
  · exact (offsetOf_positionOf text n).symm
  · obtain ⟨outcome, line, hline, hended⟩ := h.exists_outcome p
    obtain ⟨j, hrun⟩ := h.runCommand_eq
    obtain ⟨j', hrun'⟩ := (h.withJson hc).runCommand_eq
    have hplain := (hrun p).1 hp
    have hrecord := (hrun' p).1 hp
    rw [hc] at hplain
    rw [show inv.withJson.command = .toggle from hc] at hrecord
    replace hplain := hplain.trans ((hended j).2 json)
    replace hrecord := hrecord.trans ((hended j').2 true)
    refine ⟨outcome, line, hline, fun j => (hended j).1, hplain, hrecord, ?_, ?_⟩
    · rw [hplain, exitCode_ofOutcome]
      by_cases hfailed : outcome.status = .failed <;> simp [hfailed]
    · rw [hplain, hrecord, exitCode_ofOutcome, exitCode_ofOutcome]

/-- A quiet toggle from a controller, in a workspace that is named by a link to it. -/
def actionToggle : Invocation where
  settings := {}
  naming := .ok
  files := {
    entries := [
      (["ws"], .link "."),
      (["app"], .directory),
      (["app", "controllers"], .directory),
      (["app", "controllers", "a_controller.rb"], .file
        [0x64, 0x65, 0x66, 0x20, 0x62, 0x0A, 0x20, 0x20, 0x78, 0x0A, 0x65, 0x6E, 0x64, 0x0A]),
      (["app", "views"], .directory),
      (["app", "views", "a"], .directory),
      (["app", "views", "a", "b.html.erb"], .file [])]
    workingDirectory := [] }
  globals := ["-q"]
  command := .toggle
  front := ["-w", "ws"]
  back := ["app/controllers/a_controller.rb"]

theorem actionToggle_serves : actionToggle.Serves actionToggle.files
    "app/controllers/a_controller.rb" ["ws"] false "def b\n  x\nend\n" where
  globals := ⟨⟨[(.quiet, [])], []⟩, .error, rfl, rfl, rfl, rfl⟩
  unended := by decide
  arguments := ⟨⟨[(.workspace, "ws")], []⟩, ⟨[], ["app/controllers/a_controller.rb"]⟩, rfl, rfl,
    by simp [Unplaced], by simp [Unplaced], rfl, rfl, rfl⟩
  log := rfl
  directory := .nil
  folders := by
    have hreal : actionToggle.files.resolve (.ofText "ws") = .ok ⟨.root, []⟩ := by decide +kernel
    intro s hs
    exact ⟨_, List.mem_singleton.1 hs ▸ hreal⟩
  readable := by decide +kernel

theorem lt_pow_numeralLimit {n : Nat} (h : n < 10) : n < 10 ^ Text.numeralLimit :=
  Nat.lt_of_lt_of_le h (Nat.le_self_pow (by decide) 10)

theorem actionToggle_agrees :
    actionToggle.run (.position 2 3) = actionToggle.run (.offset 8) ∧
      (actionToggle.run (.offset 8)).exitCode = 0 ∧
      (actionToggle.withJson.run (.offset 8)).exitCode = 0 := by
  have hposition : (Placement.position 2 3).IsAccepted :=
    ⟨⟨by decide, lt_pow_numeralLimit (by decide)⟩, by decide, lt_pow_numeralLimit (by decide)⟩
  have hoffset : (Placement.offset 8).IsAccepted := lt_pow_numeralLimit (n := 8) (by decide)
  have hopened : (actionToggle.run (.offset 8)).exitCode = 0 := by decide +kernel
  obtain ⟨hsame, -, -, htoggle⟩ := positions_agree actionToggle_serves
  obtain ⟨outcome, line, -, -, -, -, -, hcode⟩ := htoggle rfl (.offset 8) hoffset
  exact ⟨hsame 2 3 hposition hoffset, hopened, hcode.trans hopened⟩

/-- An offset of too many digits is refused, where the position that it stands for is served. -/
theorem long_offset_refused :
    actionToggle.Serves actionToggle.files "app/controllers/a_controller.rb" ["ws"] false
        "def b\n  x\nend\n" ∧
      positionOf "def b\n  x\nend\n" ((10 ^ Text.numeralLimit : Nat) : Int) = ⟨4, 1⟩ ∧
      (actionToggle.run (.offset (10 ^ Text.numeralLimit))).exitCode = 2 ∧
      (actionToggle.run (.position 4 1)).exitCode = 1 := by
  have hlong : ¬ (Placement.offset (10 ^ Text.numeralLimit)).IsAccepted := Nat.lt_irrefl _
  have hpast : 14 ≤ 10 ^ Text.numeralLimit :=
    Nat.le_trans (by decide : 14 ≤ 10 ^ 2) (Nat.pow_le_pow_right (by decide) (by decide))
  have hend : clampOffset "def b\n  x\nend\n" ((10 ^ Text.numeralLimit : Nat) : Int) = 14 := by
    rw [clampOffset, Int.toNat_natCast]
    exact Nat.min_eq_right hpast
  have hposition : positionOf "def b\n  x\nend\n" ((10 ^ Text.numeralLimit : Nat) : Int) =
      ⟨4, 1⟩ := by
    rw [positionOf, hend]
    decide
  have hrefused := (actionToggle_serves.exitCode_eq_two_iff _).2 hlong
  exact ⟨actionToggle_serves, hposition, hrefused, by decide +kernel⟩

end Counterpart.CommandLine
