import ApiClients.CommandLine.Arguments
import ApiClients.Proofs.CommandLine.SettingText
import ApiClients.Proofs.Results

/-!
# What arguments make

The settings of a command are read from texts, and its path is a text that is not empty: both are checked
when a value is taken in (`WellFormed.fill`), so each argument keeps what has been taken in so
(`WellFormed.step`), and with it all arguments together (`wellFormed_of_ofArguments`). In the other
direction, every setting and every such path can be given (`ofArguments_attached`).
-/

namespace ApiClients.CommandLine

open Results

/-- A path that an argument gives: a text that is not empty. -/
def IsArgument (schema : Path) : Prop :=
  ∃ path : String, path ≠ "" ∧ schema = path

/-- What all commands have in common that come from arguments: the path is an argument, and settings are
read from texts. -/
def Command.WellFormed : Command → Prop
  | .inspect schema _ _ => IsArgument schema
  | .check schema _ _ settings => IsArgument schema ∧ ∀ e ∈ settings, ∃ raw, Sets raw e

namespace Arguments

variable {p q : Progress} {slot : Slot} {argument name value : String} {command : CommandName}
  {arguments : List String}

/-! ## What has been taken in

Only `fill` changes the path and the settings. What reads an argument lets it wait, and takes in what has
waited by `settle`. -/

namespace Progress

/-- What has been taken in is well formed. What waits is not looked at before it is taken in. -/
structure WellFormed (p : Progress) : Prop where
  schema : ∀ schema, p.schema = some schema → IsArgument schema
  settings : ∀ e ∈ p.settings, ∃ raw, Sets raw e

theorem wellFormed_start : WellFormed { command } :=
  ⟨nofun, nofun⟩

theorem WellFormed.fill (h : p.WellFormed) (taken : p.fill slot value = .ok q) : q.WellFormed := by
  unfold Progress.fill at taken
  cases slot with
  | schema =>
    dsimp only at taken
    split_ifs at taken with empty
    cases taken
    refine ⟨fun schema path => ?_, h.settings⟩
    exact ⟨value, by simpa using empty, (Option.some.inj path).symm⟩
  | name =>
    dsimp only at taken
    split_ifs at taken
    cases taken
    exact ⟨h.schema, h.settings⟩
  | region =>
    dsimp only at taken
    split_ifs at taken
    cases taken
    exact ⟨h.schema, h.settings⟩
  | setting =>
    dsimp only at taken
    split at taken
    · exact nomatch taken
    · next e read =>
      cases taken
      refine ⟨h.schema, fun d hd => ?_⟩
      rcases List.mem_append.1 hd with hd | hd
      · exact h.settings d hd
      · rw [List.mem_singleton.1 hd]
        exact ⟨value, readSetting_eq_ok_iff.1 read⟩

theorem WellFormed.settle (h : p.WellFormed) (taken : p.settle = .ok q) : q.WellFormed := by
  unfold Progress.settle at taken
  split at taken
  · cases taken
    exact h
  · exact nomatch taken
  · have cleared : WellFormed { p with pending := none } := ⟨h.schema, h.settings⟩
    exact cleared.fill taken

theorem WellFormed.path (h : p.WellFormed) (read : p.path argument = .ok q) : q.WellFormed := by
  unfold Progress.path at read
  split_ifs at read
  obtain ⟨r, settled, rfl⟩ := map_eq_ok_iff.1 read
  obtain ⟨path, sets⟩ := h.settle settled
  exact ⟨path, sets⟩

theorem WellFormed.long {value : Option String} (h : p.WellFormed) (read : p.long name value = .ok q) :
    q.WellFormed := by
  unfold Progress.long at read
  split at read
  · exact nomatch read
  · next value _ =>
    obtain ⟨r, settled, filled⟩ := bind_eq_ok_iff.1 read
    exact (h.settle settled).fill filled
  · obtain ⟨r, settled, rfl⟩ := map_eq_ok_iff.1 read
    obtain ⟨path, sets⟩ := h.settle settled
    exact ⟨path, sets⟩
  · exact nomatch read
  · obtain ⟨r, settled, flagged⟩ := bind_eq_ok_iff.1 read
    obtain ⟨path, sets⟩ := h.settle settled
    split_ifs at flagged
    cases flagged
    exact ⟨path, sets⟩
  · exact h.settle read
  · obtain ⟨r, -, none⟩ := bind_eq_ok_iff.1 read
    exact nomatch none

theorem WellFormed.short {letters : List Char} (h : p.WellFormed) (read : p.short letters = .ok q) :
    q.WellFormed := by
  induction letters generalizing p with
  | nil =>
    cases read
    exact h
  | cons c letters ih =>
    unfold Progress.short at read
    split at read
    · next eq => exact nomatch eq
    · next eq =>
      obtain ⟨-, rfl⟩ := List.cons.inj eq
      obtain ⟨r, settled, read⟩ := bind_eq_ok_iff.1 read
      exact ih (h.settle settled) read
    · obtain ⟨r, -, none⟩ := bind_eq_ok_iff.1 read
      exact nomatch none
    · exact nomatch read

theorem WellFormed.step (h : p.WellFormed) (read : p.step argument = .ok q) : q.WellFormed := by
  unfold Progress.step at read
  split_ifs at read
  · exact h.path read
  · split at read
    · cases read
      exact ⟨h.schema, h.settings⟩
    · exact h.long read
    · exact h.short read
    · split at read
      · cases read
        exact ⟨h.schema, h.settings⟩
      · exact h.path read

theorem WellFormed.foldlM (h : p.WellFormed) (read : arguments.foldlM Progress.step p = .ok q) :
    q.WellFormed := by
  induction arguments generalizing p with
  | nil =>
    cases read
    exact h
  | cons argument arguments ih =>
    rw [List.foldlM_cons] at read
    obtain ⟨r, first, read⟩ := bind_eq_ok_iff.1 read
    exact ih (h.step first) read

theorem WellFormed.finish {c : Command} (h : p.WellFormed) (made : p.finish = .ok c) :
    c.WellFormed := by
  obtain ⟨r, settled, made⟩ := bind_eq_ok_iff.1 made
  obtain ⟨argument, sets⟩ := h.settle settled
  split at made
  · exact nomatch made
  · next path _ =>
    cases made
    exact argument _ path
  · next path _ =>
    cases made
    exact ⟨argument _ path, sets⟩

end Progress

theorem wellFormed_of_beforeCommand {has : Bool} {c : Command}
    (made : beforeCommand has arguments = .ok c) : c.WellFormed := by
  induction arguments generalizing has with
  | nil => exact nomatch made
  | cons argument arguments ih =>
    unfold beforeCommand at made
    split at made
    · exact nomatch made
    split at made
    -- The argument is the command; others are passed over, or they are faults.
    · obtain ⟨p, read, made⟩ := bind_eq_ok_iff.1 made
      exact (Progress.wellFormed_start.foldlM read).finish made
    · split at made
      · exact nomatch made
      · exact nomatch made
    · split at made
      · exact nomatch made
      · exact ih made
    · split at made
      · exact nomatch made
      · exact ih made
    · exact nomatch made

/-! ## Giving a setting -/

theorem formOf_attached (no_mark : '=' ∉ name.toList) :
    formOf ("--" ++ name ++ "=" ++ value) = .long name (some value) := by
  have chars : ("--" ++ name ++ "=" ++ value).toList =
      '-' :: '-' :: (name.toList ++ '=' :: value.toList) := by
    simp
  have split : splitAtFirst? '=' (name.toList ++ '=' :: value.toList) =
      some (name.toList, value.toList) :=
    splitAtFirst?_eq_some_iff.2 ⟨rfl, no_mark⟩
  -- Two hyphens alone are another form.
  have not_nil : name.toList ++ '=' :: value.toList ≠ [] := by simp
  unfold formOf
  rw [chars]
  simp only [split, String.ofList_toList]

end Arguments

/-- Arguments make well-formed commands only. -/
theorem wellFormed_of_ofArguments {arguments : List String} {c : Command}
    (made : Command.ofArguments arguments = .ok c) : c.WellFormed :=
  Arguments.wellFormed_of_beforeCommand made

/-- Every setting can be given for every path. The value is attached to its option, as it may begin with a
hyphen, and so may the path. -/
theorem ofArguments_attached {schema raw : String} {e : String × Json} (not_empty : schema ≠ "")
    (sets : Sets raw e) :
    Command.ofArguments ["check", "--set=" ++ raw, "--", schema] = .ok (.check schema none none [e]) := by
  have form : Arguments.formOf ("--" ++ "set" ++ "=" ++ raw) = .long "set" (some raw) :=
    Arguments.formOf_attached (by decide)
  have first : Arguments.Progress.step { command := .check } ("--set=" ++ raw) =
      .ok { command := .check, settings := [e] } := by
    unfold Arguments.Progress.step
    rw [show "--set=" = "--" ++ "set" ++ "=" by decide, form]
    show Arguments.Progress.fill _ .setting raw = _
    unfold Arguments.Progress.fill
    rw [readSetting_eq_ok_iff.2 sets]
    rfl
  have path (p : Arguments.Progress) : p.fill .schema schema = .ok { p with schema := some schema } :=
    if_neg (by simpa using not_empty)
  show Arguments.ofCommand .check ["--set=" ++ raw, "--", schema] = _
  unfold Arguments.ofCommand
  rw [List.foldlM_cons, first]
  show Except.bind (Arguments.Progress.fill _ .schema schema) _ = _
  rw [path]
  rfl

end ApiClients.CommandLine
