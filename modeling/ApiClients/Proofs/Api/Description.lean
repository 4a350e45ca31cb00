import ApiClients.Api.Description
import ApiClients.Proofs.Path
import ApiClients.Proofs.Results

/-!
# What comes of the file of a description

`Loads` has a case for each outcome of a path: the file is there or not, its text is JSON or not, and the
JSON is an object or not. A path describes the API whose definition it loads (`toApi_path_eq_ok_iff`).
-/

namespace ApiClients.Description

open Results

/-- What comes of the file at a path. An empty path names no file, and stands for the empty definition. -/
inductive Loads (files : Files) (path : Path) :
    Except DescriptionError (Table Json) → Prop where
  | nothing (empty : path = "") : Loads files path (.ok ∅)
  | unreadable {cause : ReadFailure} (named : path ≠ "") (missing : files path = .error cause) :
    Loads files path (.error (.unreadable path cause))
  | malformed {text : String} (named : path ≠ "") (there : files path = .ok text)
    (no_json : Json.read? text = none) : Loads files path (.error (.malformed path))
  | notAnObject {text : String} {value : Json} (named : path ≠ "") (there : files path = .ok text)
    (read : Json.read? text = some value) (other : ∀ definition, value ≠ .object definition) :
    Loads files path (.error (.notAnObject path value.kind))
  | object {text : String} {definition : Table Json} (named : path ≠ "")
    (there : files path = .ok text) (read : Json.read? text = some (.object definition)) :
    Loads files path (.ok definition)

variable {files : Files} {path : Path}

theorem exists_loads (files : Files) (path : Path) : ∃ r, Loads files path r := by
  by_cases named : path = ""
  · exact ⟨_, .nothing named⟩
  cases there : files path with
  | error cause => exact ⟨_, .unreadable named there⟩
  | ok text =>
    cases read : Json.read? text with
    | none => exact ⟨_, .malformed named there read⟩
    | some value =>
      by_cases is_object : ∃ definition, value = .object definition
      · obtain ⟨definition, rfl⟩ := is_object
        exact ⟨_, .object named there read⟩
      · exact ⟨_, .notAnObject named there read fun definition eq => is_object ⟨definition, eq⟩⟩

theorem toApi_of_loads {r : Except DescriptionError (Table Json)} (h : Loads files path r)
    (serial : Nat) : (Description.path path).toApi files serial = r.map (⟨·, serial⟩) := by
  have load (named : path ≠ "") :
      (Description.path path).toApi files serial = (Description.load files path).map (⟨·, serial⟩) :=
    if_neg fun empty => named (Path.isEmpty_iff.1 empty)
  cases h with
  | nothing empty => exact if_pos (Path.isEmpty_iff.2 empty)
  | unreadable named missing =>
    simp only [load named, Description.load, missing, Except.map]
  | malformed named there no_json =>
    simp only [load named, Description.load, there, no_json, Except.map]
  | notAnObject named there read other =>
    simp only [load named, Description.load, there, read, Except.map]
  | object named there read =>
    simp only [load named, Description.load, there, read]

theorem toApi_path_eq_ok_iff {serial : Nat} {a : Api} :
    (Description.path path).toApi files serial = .ok a ↔
      ∃ definition, Loads files path (.ok definition) ∧ a = ⟨definition, serial⟩ := by
  constructor
  · intro h
    obtain ⟨r, loads⟩ := exists_loads files path
    rw [toApi_of_loads loads] at h
    obtain ⟨definition, rfl, rfl⟩ := map_eq_ok_iff.1 h
    exact ⟨definition, loads, rfl⟩
  · rintro ⟨definition, loads, rfl⟩
    exact toApi_of_loads loads serial

end ApiClients.Description
