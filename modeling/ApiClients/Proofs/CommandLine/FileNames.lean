import ApiClients.Proofs.CommandLine.Check
import ApiClients.Proofs.Text.Capital

/-!
# Ordinary file names

A file whose name is text and begins with an ordinary part, of letters, digits, underscores and hyphens of
ASCII (`Ordinary`), gives a valid name for a service. So no command fails for the name of a service that is
described in such a file, unless this is a name that it is given (`ordinary_file_names_valid`).
-/

namespace ApiClients.CommandLine

open Results

variable {path : Path} {component part name : String}

/-! ## Ordinary parts -/

/-- A letter of ASCII, followed by letters, digits, underscores and hyphens. -/
def Ordinary (part : String) : Prop :=
  ∃ c rest, part.toList = c :: rest ∧ ServiceName.IsLetter c ∧
    ∀ d ∈ rest, ServiceName.IsLetter d ∨ ServiceName.IsDigit d ∨ d = '_' ∨ d = '-'

/-- A text with its first letter in upper case, where only ASCII has cases, and with underscores for
hyphens. -/
def ordinaryName (part : String) : String :=
  String.ofList ((part.toList.modifyHead Char.toUpper).map fun c => if c = '-' then '_' else c)

theorem Ordinary.names (h : Ordinary part) (leads : path.LeadsTo (Text.bytes component))
    (before : BeforeDot (Text.bytes component) (Text.bytes part)) :
    Names path (ordinaryName part) := by
  obtain ⟨c, rest, chars, letter, -⟩ := h
  have eq : part = String.ofList (c :: rest) := by rw [← chars, String.ofList_toList]
  have capital : Text.capital c = [c.toUpper] := Text.capital_of_ascii letter.toNat_lt
  have names : Names path _ := .mk leads (eq ▸ before)
  rw [capital] at names
  unfold ordinaryName
  rw [chars]
  exact names

theorem Ordinary.spelled (h : Ordinary part) : ServiceName.Spelled (ordinaryName part) := by
  obtain ⟨c, rest, chars, letter, others⟩ := h
  have capital : ServiceName.IsLetter c.toUpper := letter.toUpper
  have no_hyphen : c.toUpper ≠ '-' := by
    intro hyphen
    rw [hyphen] at capital
    exact absurd (ServiceName.isAlpha_iff.2 capital) (by decide)
  refine ⟨c.toUpper, rest.map fun d => if d = '-' then '_' else d, ?_, capital, fun d hd => ?_⟩
  · simp [ordinaryName, chars, no_hyphen]
  · obtain ⟨b, hb, rfl⟩ := List.mem_map.1 hd
    split_ifs with hyphen
    · exact .inr (.inr rfl)
    · rcases others b hb with letter | digit | underscore | eq
      · exact .inl letter
      · exact .inr (.inl digit)
      · exact .inr (.inr underscore)
      · exact absurd eq hyphen

/-! ## Commands -/

variable {w : Surroundings} {given : Option String} {command : Command} {e : CommandError}

/-- A command that reads the description at a path, and what it is given as a name. -/
inductive Command.Reads (path : Path) (given : Option String) : Command → Prop where
  | inspect {json : Bool} : Reads path given (.inspect path given json)
  | check {region : Option String} {settings : List (String × Json)} :
    Reads path given (.check path given region settings)

theorem run_inspect_of_error {json : Bool} (h : w.addService path given = .error e) :
    (Command.inspect path given json).run w = .error e := by
  show (w.addService path given).map _ = _
  rw [h]
  rfl

/-- A command fails where it does not find its service, or where settings are refused. -/
theorem Command.Reads.run_error (h : command.Reads path given) (failed : command.run w = .error e) :
    w.Finds path given (.error e) ∨ ∃ cause, e = .failure (.settings cause) := by
  cases h with
  | inspect =>
    have unfound : w.addService path given = .error e := map_eq_error_iff.1 failed
    exact .inl (Surroundings.finds_iff.1 (map_eq_error_iff.2 unfound))
  | @check region settings =>
    obtain ⟨r, checks⟩ := exists_checks w path given region settings
    obtain rfl : r = .error e := (run_of_checks checks).symm.trans failed
    cases checks with
    | unfound found => exact .inl found
    | refused => exact .inr ⟨_, rfl⟩

/-- If the path gives a valid name, only a name that is given can be at fault. -/
theorem Surroundings.Finds.given_of_invalid (names : Names path name)
    (spelled : ServiceName.Spelled name) (h : w.Finds path given (.error e)) :
    (∀ p, e ≠ .noServiceName p) ∧ ∀ i, e = .failure (.name i) → given = some i.text := by
  cases h with
  | nameless none =>
    cases given with
    | none => exact absurd (.derived names) (none name)
    | some g => exact absurd .given (none g)
  | invalidName named faulty =>
    refine ⟨nofun, fun i eq => ?_⟩
    obtain rfl := Failure.name.inj (CommandError.failure.inj eq)
    cases named with
    | given => rfl
    | derived names' =>
      obtain rfl := names'.unique names
      exact absurd spelled faulty.not_spelled
  | undescribed => exact ⟨nofun, nofun⟩
  | noNamespace => exact ⟨nofun, nofun⟩

/-- Ordinary file names give valid service names. Where the last component of a path is text, and has an
ordinary part before its first dot, the path gives this part as a name, with its first letter in upper case
and with underscores for hyphens, and the name is accepted. No command that reads the description at this
path fails for want of a name, and none fails for its name unless this is a name that it is given. The names
that are accepted are those that are spelled as a letter of ASCII, followed by letters, digits and
underscores. -/
theorem ordinary_file_names_valid :
    (∀ (path : Path) (component part : String),
      path.LeadsTo (Text.bytes component) →
      BeforeDot (Text.bytes component) (Text.bytes part) → Ordinary part →
        serviceName? path none = some (ordinaryName part) ∧
        (∃ valid, ServiceName.ofString (ordinaryName part) = .ok valid ∧
          valid.text = ordinaryName part) ∧
        ∀ (w : Surroundings) (given : Option String) (command : Command) (e : CommandError),
          command.Reads path given → command.run w = .error e →
            (∀ p, e ≠ .noServiceName p) ∧ ∀ i, e = .failure (.name i) → given = some i.text) ∧
    ∀ s, (∃ valid, ServiceName.ofString s = .ok valid) ↔ ServiceName.Spelled s := by
  refine ⟨fun path component part leads before ordinary => ?_,
    fun s => ServiceName.exists_ofString_iff⟩
  have names : Names path (ordinaryName part) := ordinary.names leads before
  obtain ⟨valid, accepted⟩ := ServiceName.exists_ofString_iff.2 ordinary.spelled
  refine ⟨serviceName?_eq_some_iff.2 (.derived names),
    ⟨valid, accepted, ServiceName.text_of_ofString accepted⟩, ?_⟩
  intro w given command e reads failed
  rcases reads.run_error failed with unfound | ⟨cause, rfl⟩
  · exact unfound.given_of_invalid names ordinary.spelled
  · exact ⟨nofun, nofun⟩

/-- A path with dots in a directory, several extensions and a component that does not count. Without the
file the command fails, but not for the name. -/
theorem ordinary_file_names_valid_my_svc :
    let path : Path := "../v1.2/my-svc.v2.api.json/."
    let component := "my-svc.v2.api.json"
    let w : Surroundings := ⟨fun _ => .error .notFound, fun _ => none, false⟩
    let e : CommandError := .failure (.description (.unreadable path .notFound))
    path.LeadsTo (Text.bytes component) ∧ BeforeDot (Text.bytes component) (Text.bytes "my-svc") ∧
      Ordinary "my-svc" ∧ serviceName? path none = some "My_svc" ∧
      (∃ valid, ServiceName.ofString "My_svc" = .ok valid) ∧
      (Command.check path none none []).run w = .error e ∧ ∀ i, e ≠ .failure (.name i) := by
  intro path component w e
  have trails : Path.Trails ([] ++ 0x2f :: Text.bytes ".") := .append .nothing (.inr rfl)
  have leads : path.LeadsTo (Text.bytes component) := by
    have parts : path =
        ⟨Text.bytes "../v1.2" ++ 0x2f :: (Text.bytes component ++ ([] ++ 0x2f :: Text.bytes "."))⟩ := by
      decide
    rw [parts]
    exact .below (by decide) (by decide) trails
  have before : BeforeDot (Text.bytes component) (Text.bytes "my-svc") :=
    beforeDot_iff.2 (by decide)
  have ordinary : Ordinary "my-svc" := by
    refine ⟨'m', "y-svc".toList, by decide, .inr (by decide), ?_⟩
    simp [ServiceName.IsLetter, ServiceName.IsDigit]
  have spelling : ordinaryName "my-svc" = "My_svc" := by decide
  obtain ⟨named, ⟨valid, accepted, -⟩, faults⟩ :=
    ordinary_file_names_valid.1 path component "my-svc" leads before ordinary
  rw [spelling] at named accepted
  have spelled : ServiceName.Spelled "My_svc" := ServiceName.exists_ofString_iff.1 ⟨valid, accepted⟩
  have failed : (Command.check path none none []).run w = .error e :=
    run_of_checks (.unfound (.undescribed (serviceName?_eq_some_iff.1 named) spelled
      (.unreadable (by decide) rfl)))
  obtain ⟨-, name_fault⟩ := faults w none _ e .check failed
  exact ⟨leads, before, ordinary, named, ⟨valid, accepted⟩, failed,
    fun i eq => nomatch name_fault i eq⟩

/-- Without its conditions this does not hold. The component with a byte after its dot that is no text gives
no name, although the part before the dot is ordinary. And where the path gives a valid name, a command may
be given another one, which is refused. -/
theorem ordinary_part_refused :
    let no_text : Path := ⟨Text.bytes "svc." ++ [0xff]⟩
    let text : Path := "svc.json"
    let w : Surroundings := ⟨fun _ => .ok "\x7b\x7d", fun _ => none, false⟩
    Ordinary "svc" ∧
    (no_text.LeadsTo no_text.bytes ∧ BeforeDot no_text.bytes (Text.bytes "svc") ∧
      serviceName? no_text none = none ∧
      (Command.inspect no_text none false).run w = .error (.noServiceName no_text)) ∧
    text.LeadsTo text.bytes ∧ BeforeDot text.bytes (Text.bytes "svc") ∧
      serviceName? text none = some "Svc" ∧
      (Command.inspect text (some "1x") false).run w =
        .error (.failure (.name ⟨"1x", .start⟩)) := by
  intro no_text text w
  have ordinary : Ordinary "svc" := by
    refine ⟨'s', "vc".toList, by decide, .inr (by decide), ?_⟩
    simp [ServiceName.IsLetter]
  have alone (path : Path) (no_slash : 0x2f ∉ path.bytes) (active : ¬ Path.Idle path.bytes) :
      path.LeadsTo path.bytes := by
    have leads := Path.LeadsTo.alone no_slash active .nothing
    rwa [List.append_nil] at leads
  have nameless : serviceName? no_text none = none := by decide
  have unfound : w.addService no_text none = .error (.noServiceName no_text) := by
    unfold Surroundings.addService
    rw [nameless]
  exact ⟨ordinary,
    ⟨alone no_text (by decide) (by decide), beforeDot_iff.2 (by decide), nameless,
      run_inspect_of_error unfound⟩,
    alone text (by decide) (by decide), beforeDot_iff.2 (by decide), by decide, rfl⟩

end ApiClients.CommandLine
