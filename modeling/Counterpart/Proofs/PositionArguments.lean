import Counterpart.CommandLine
import Counterpart.Proofs.Numerals

/-! The arguments that give a position, by line and column or as an offset, and how they are read
among the other arguments of a command. A number is read as it is written, up to a number of
digits. -/

namespace Counterpart

namespace Arguments

variable {α : Type} {forms : List (OptionForm α)}

instance : Append (Arguments α) where
  append a b := ⟨a.options ++ b.options, a.positionals ++ b.positionals⟩

theorem append_eq (a b : Arguments α) :
    a ++ b = ⟨a.options ++ b.options, a.positionals ++ b.positionals⟩ := rfl

theorem append_assoc (a b c : Arguments α) : a ++ b ++ c = a ++ (b ++ c) := by
  simp only [append_eq, List.append_assoc]

section

variable {mixed : Bool} {arg value : Text} {rest : List Text} {options : List (α × Text)}
variable {option : α} {a first : Arguments α}

theorem read_option (hd : arg ≠ ['-', '-']) (ho : isOption arg = true)
    (hr : readOption forms arg = .ok ⟨options, none⟩) :
    read forms mixed (arg :: rest) = (read forms mixed rest).map (⟨options, []⟩ ++ ·) := by
  rw [read, if_neg hd, if_pos ho, hr]
  rfl

theorem read_waiting (hd : arg ≠ ['-', '-']) (ho : isOption arg = true)
    (hr : readOption forms arg = .ok ⟨options, some option⟩) :
    read forms mixed (arg :: value :: rest) =
      (read forms mixed rest).map (⟨options ++ [(option, value)], []⟩ ++ ·) := by
  rw [read, if_neg hd, if_pos ho, hr]
  simp [append_eq]

theorem read_positional (hd : arg ≠ ['-', '-']) (ho : ¬ isOption arg = true) :
    read forms true (arg :: rest) = (read forms true rest).map (⟨[], [arg]⟩ ++ ·) := by
  rw [read, if_neg hd, if_neg ho, if_pos rfl]
  rfl

/-- Reading goes on behind what was read first as it does behind nothing. -/
theorem map_append_of_map {result result' later : Except UsageError (Arguments α)}
    (h : result.map (first ++ ·) = .ok a)
    (ih : ∀ b, result = .ok b → a = first ++ b → result' = later.map (b ++ ·)) :
    result'.map (first ++ ·) = later.map (a ++ ·) := by
  cases result with
  | error e => cases h
  | ok b =>
    obtain rfl := Except.ok.inj h
    rw [ih b rfl rfl]
    cases later with
    | error e => rfl
    | ok c => exact congrArg Except.ok (append_assoc first b c).symm

end

/-- Arguments are read from the front, up to two dashes or to what ends the options. -/
theorem read_append {mixed : Bool} {front : List Text} {a : Arguments α}
    (h : read forms mixed front = .ok a) (hm : mixed = true ∨ a.positionals = [])
    (hd : ['-', '-'] ∉ front) (rest : List Text) :
    read forms mixed (front ++ rest) = (read forms mixed rest).map (a ++ ·) := by
  -- As the reader goes: an option may take the argument after it along as its value.
  fun_induction read forms mixed front generalizing a with
  | case1 =>
    obtain rfl := Except.ok.inj h
    cases hr : read forms mixed rest <;> simp [hr, Except.map, append_eq]
  | case2 => exact absurd List.mem_cons_self hd
  | case3 => cases h
  | case4 arg later he ho options hr ih =>
    rw [List.cons_append, read_option he ho hr]
    apply map_append_of_map h
    rintro b hb rfl
    exact ih hb (by simpa [append_eq] using hm) fun hmem => hd (List.mem_cons_of_mem _ hmem)
  | case5 => cases h
  | case6 arg he ho options option hr value later ih =>
    have hvalue :
        (read forms mixed later).map (⟨options ++ [(option, value)], []⟩ ++ ·) = .ok a := by
      simpa [append_eq] using h
    rw [List.cons_append, List.cons_append, read_waiting he ho hr]
    apply map_append_of_map hvalue
    rintro b hb rfl
    refine ih hb (by simpa [append_eq] using hm) fun hmem => ?_
    exact hd (List.mem_cons_of_mem _ (List.mem_cons_of_mem _ hmem))
  | case7 arg later he ho hmixed ih =>
    subst hmixed
    rw [List.cons_append, read_positional he ho]
    apply map_append_of_map h
    rintro b hb rfl
    exact ih hb (.inl rfl) fun hmem => hd (List.mem_cons_of_mem _ hmem)
  | case8 arg later he ho hmixed =>
    obtain rfl := Except.ok.inj h
    rcases hm with hm | hm
    · exact absurd hm hmixed
    · cases hm

end Arguments

namespace Arguments

variable {α : Type} [DecidableEq α] {a b : Arguments α}

theorem values_append (option : α) : (a ++ b).values option = a.values option ++ b.values option :=
  List.filterMap_append

theorem has_append (option : α) : (a ++ b).has option = (a.has option || b.has option) :=
  List.any_append

theorem values_of_forall {option : α} (h : ∀ o ∈ a.options, o.1 ≠ option) :
    a.values option = [] := by
  apply List.filterMap_eq_nil_iff.2
  rintro ⟨other, value⟩ hmem
  exact if_neg (h _ hmem)

theorem has_of_forall {option : α} (h : ∀ o ∈ a.options, o.1 ≠ option) :
    a.has option = false := by
  simpa [has] using h

end Arguments

/-! ### Positions -/

namespace CommandLine

theorem integerFrom_ofNat {least n : Nat} (h : least ≤ n) (hn : n < 10 ^ Text.numeralLimit) :
    integerFrom least (.ofNat n) = .ok (n : Int) := by
  rw [integerFrom, Text.integer_ofNat, if_pos hn]
  exact if_neg (by omega)

theorem integerFrom_ofNat_error {least n : Nat}
    (h : ¬ (least ≤ n ∧ n < 10 ^ Text.numeralLimit)) :
    ∃ e, integerFrom least (.ofNat n) = .error e := by
  rw [integerFrom, Text.integer_ofNat]
  by_cases hn : n < 10 ^ Text.numeralLimit
  · have hleast : (n : Int) < least := by omega
    rw [if_pos hn]
    exact ⟨_, if_pos hleast⟩
  · rw [if_neg hn]
    exact ⟨_, rfl⟩

section

variable {option : CommandOption} {a : Arguments CommandOption} {least n : Nat}

theorem lastInteger_ofNat (ha : a.values option = [.ofNat n]) (h : least ≤ n)
    (hn : n < 10 ^ Text.numeralLimit) : lastInteger least option a = .ok (some (n : Int)) := by
  rw [lastInteger, ha]
  exact congrArg (Except.map some) (integerFrom_ofNat h hn)

theorem lastInteger_ofNat_error (ha : a.values option = [.ofNat n])
    (h : ¬ (least ≤ n ∧ n < 10 ^ Text.numeralLimit)) :
    ∃ e, lastInteger least option a = .error e := by
  obtain ⟨e, he⟩ := integerFrom_ofNat_error h
  rw [lastInteger, ha]
  exact ⟨e, congrArg (Except.map some) he⟩

end

inductive Placement where
  | position (line column : Nat)
  | offset (n : Nat)

namespace Placement

def args : Placement → List Text
  | .position line column => ["--line", .ofNat line, "--column", .ofNat column]
  | .offset n => ["--offset", .ofNat n]

def arguments : Placement → Arguments CommandOption
  | .position line column => ⟨[(.line, .ofNat line), (.column, .ofNat column)], []⟩
  | .offset n => ⟨[(.offset, .ofNat n)], []⟩

/-- Lines and columns start at 1, and a number has a limited number of digits. -/
def IsAccepted : Placement → Prop
  | .position line column => (1 ≤ line ∧ line < 10 ^ Text.numeralLimit) ∧
      1 ≤ column ∧ column < 10 ^ Text.numeralLimit
  | .offset n => n < 10 ^ Text.numeralLimit

def request (file : Text) (workspaces : List Text) (json : Bool) : Placement → Request
  | .position line column => {
      file := .ofText file
      line := some line
      column
      offset := none
      workspaces := workspaces.map Path.ofText
      json }
  | .offset n => {
      file := .ofText file
      line := none
      column := 1
      offset := some n
      workspaces := workspaces.map Path.ofText
      json }

variable {p : Placement} {command : Command}

theorem read_args (rest : List Text) : Arguments.read (commandForms command) true (p.args ++ rest) =
    (Arguments.read (commandForms command) true rest).map (p.arguments ++ ·) := by
  have hform {name : Text} {option : CommandOption} (hd : name ≠ ['-', '-'])
      (ho : Arguments.isOption name = true)
      (hr : Arguments.readOption (commandForms command) name = .ok ⟨[], some option⟩)
      (value : Text) (rest : List Text) :
      Arguments.read (commandForms command) true (name :: value :: rest) =
        (Arguments.read (commandForms command) true rest).map (⟨[(option, value)], []⟩ ++ ·) :=
    Arguments.read_waiting hd ho hr
  have hline := @hform "--line" .line (by decide) (by decide) (by cases command <;> rfl)
  have hcolumn := @hform "--column" .column (by decide) (by decide) (by cases command <;> rfl)
  have hoffset := @hform "--offset" .offset (by decide) (by decide) (by cases command <;> rfl)
  cases p with
  | position line column =>
    rw [args, List.cons_append, List.cons_append, hline, List.cons_append, List.cons_append,
      hcolumn, List.nil_append]
    cases Arguments.read (commandForms command) true rest <;> rfl
  | offset n =>
    rw [args, List.cons_append, List.cons_append, hoffset, List.nil_append]
    rfl

end Placement

/-- Arguments that say nothing of a position and ask for no help. -/
def Unplaced (a : Arguments CommandOption) : Prop := ∀ o ∈ a.options, o.1 = .workspace ∨ o.1 = .json

namespace Unplaced

variable {a b : Arguments CommandOption} {option : CommandOption} {p : Placement} {file : Text}

theorem values_eq_nil (h : Unplaced a) (ho : option ≠ .workspace ∧ option ≠ .json) :
    a.values option = [] := by
  apply Arguments.values_of_forall
  rintro o hmem rfl
  rcases h o hmem with he | he
  · exact ho.1 he
  · exact ho.2 he

theorem has_help (h : Unplaced a) : a.has .help = false := by
  apply Arguments.has_of_forall
  intro o hmem hhelp
  rcases h o hmem with he | he
  · cases he.symm.trans hhelp
  · cases he.symm.trans hhelp

theorem values_among (ha : Unplaced a) (hb : Unplaced b)
    (ho : option ≠ .workspace ∧ option ≠ .json) :
    (a ++ (p.arguments ++ b)).values option = p.arguments.values option := by
  rw [Arguments.values_append, Arguments.values_append, ha.values_eq_nil ho, hb.values_eq_nil ho,
    List.nil_append, List.append_nil]

theorem lastInteger_among (ha : Unplaced a) (hb : Unplaced b)
    (ho : option ≠ .workspace ∧ option ≠ .json) (least : Int) :
    lastInteger least option (a ++ (p.arguments ++ b)) = lastInteger least option p.arguments := by
  rw [lastInteger, lastInteger, values_among ha hb ho]

theorem ofArguments_eq (ha : Unplaced a) (hb : Unplaced b) (hf : (a ++ b).positionals = [file]) :
    Request.ofArguments (a ++ (p.arguments ++ b)) = (do
      let line ← lastInteger 1 .line p.arguments
      let column ← lastInteger 1 .column p.arguments
      let offset ← lastInteger 0 .offset p.arguments
      return {
        file := .ofText file
        line
        column := column.getD 1
        offset
        workspaces := ((a ++ b).values .workspace).map Path.ofText
        json := (a ++ b).has .json }) := by
  have hpositionals : (a ++ (p.arguments ++ b)).positionals = [file] := by
    rw [← hf]
    cases p <;> rfl
  have hworkspaces : (a ++ (p.arguments ++ b)).values .workspace = (a ++ b).values .workspace := by
    have hnone : p.arguments.values .workspace = [] := by cases p <;> rfl
    rw [Arguments.values_append, Arguments.values_append, hnone, Arguments.values_append,
      List.nil_append]
  have hjson : (a ++ (p.arguments ++ b)).has .json = (a ++ b).has .json := by
    have hnone : p.arguments.has .json = false := by cases p <;> rfl
    rw [Arguments.has_append, Arguments.has_append, hnone, Arguments.has_append, Bool.false_or]
  rw [Request.ofArguments, lastInteger_among ha hb (by decide), lastInteger_among ha hb (by decide),
    lastInteger_among ha hb (by decide), hpositionals, hworkspaces, hjson]

theorem ofArguments_of_accepted (ha : Unplaced a) (hb : Unplaced b)
    (hf : (a ++ b).positionals = [file]) (hp : p.IsAccepted) :
    Request.ofArguments (a ++ (p.arguments ++ b)) =
      .ok (p.request file ((a ++ b).values .workspace) ((a ++ b).has .json)) := by
  rw [ofArguments_eq ha hb hf]
  cases p with
  | position line column =>
    have hline : lastInteger 1 .line (Placement.position line column).arguments =
        .ok (some (line : Int)) := lastInteger_ofNat rfl hp.1.1 hp.1.2
    have hcolumn : lastInteger 1 .column (Placement.position line column).arguments =
        .ok (some (column : Int)) := lastInteger_ofNat rfl hp.2.1 hp.2.2
    rw [hline, hcolumn]
    rfl
  | offset n =>
    have hoffset : lastInteger 0 .offset (Placement.offset n).arguments = .ok (some (n : Int)) :=
      lastInteger_ofNat rfl (Nat.zero_le n) hp
    rw [hoffset]
    rfl

theorem ofArguments_of_not_accepted (ha : Unplaced a) (hb : Unplaced b)
    (hf : (a ++ b).positionals = [file]) (hp : ¬ p.IsAccepted) :
    ∃ e, Request.ofArguments (a ++ (p.arguments ++ b)) = .error e := by
  rw [ofArguments_eq ha hb hf]
  cases p with
  | position line column =>
    by_cases hl : 1 ≤ line ∧ line < 10 ^ Text.numeralLimit
    · have hline : lastInteger 1 .line (Placement.position line column).arguments =
          .ok (some (line : Int)) := lastInteger_ofNat rfl hl.1 hl.2
      have hc : ¬ (1 ≤ column ∧ column < 10 ^ Text.numeralLimit) := fun hc => hp ⟨hl, hc⟩
      obtain ⟨e, hcolumn⟩ : ∃ e, lastInteger 1 .column (Placement.position line column).arguments =
          .error e := lastInteger_ofNat_error rfl hc
      rw [hline, hcolumn]
      exact ⟨e, rfl⟩
    · obtain ⟨e, hline⟩ : ∃ e, lastInteger 1 .line (Placement.position line column).arguments =
          .error e := lastInteger_ofNat_error rfl hl
      rw [hline]
      exact ⟨e, rfl⟩
  | offset n =>
    have hn : ¬ (0 ≤ n ∧ n < 10 ^ Text.numeralLimit) := fun hn => hp hn.2
    obtain ⟨e, hoffset⟩ : ∃ e, lastInteger 0 .offset (Placement.offset n).arguments = .error e :=
      lastInteger_ofNat_error rfl hn
    rw [hoffset]
    exact ⟨e, rfl⟩

end Unplaced
end CommandLine
end Counterpart
