import ApiClients.CommandLine.SchemaName
import ApiClients.Proofs.Path
import Mathlib.Data.List.TakeWhile

/-!
# Names from files

A service that is given no name is named after the last component of its path, up to the first dot in it
(`Names`). The component must be text: what is behind the dot gives no part of the name, but a path without
text there gives no name at all. `serviceName?_eq_some_iff` says so for all paths.
-/

namespace ApiClients.CommandLine

variable {path : Path} {component l m : List UInt8} {given : Option String} {name part text : String}

/-! ## The part before a dot -/

/-- Bytes and those before the first dot among them, which are all if there is none. -/
inductive BeforeDot : List UInt8 → List UInt8 → Prop where
  | whole {part : List UInt8} (no_dot : 0x2e ∉ part) : BeforeDot part part
  | cut {part rest : List UInt8} (no_dot : 0x2e ∉ part) : BeforeDot (part ++ 0x2e :: rest) part

theorem beforeDot_iff : BeforeDot l m ↔ l.takeWhile (· != 0x2e) = m := by
  constructor
  · intro h
    have kept (no_dot : 0x2e ∉ m) : ∀ b ∈ m, (b != 0x2e) = true :=
      fun b hb => bne_iff_ne.2 (ne_of_mem_of_not_mem hb no_dot)
    cases h with
    | whole no_dot => exact List.takeWhile_eq_self_iff.2 (kept no_dot)
    | cut no_dot =>
      rw [List.takeWhile_append_of_pos (kept no_dot), List.takeWhile_cons_of_neg (by decide),
        List.append_nil]
  · rintro rfl
    have no_dot : 0x2e ∉ l.takeWhile (· != 0x2e) := fun dot => by
      simpa using List.mem_takeWhile_imp dot
    have parts : l.takeWhile (· != 0x2e) ++ l.dropWhile (· != 0x2e) = l :=
      List.takeWhile_append_dropWhile
    cases rest : l.dropWhile (· != 0x2e) with
    | nil =>
      rw [rest, List.append_nil] at parts
      rw [parts] at no_dot ⊢
      exact .whole no_dot
    | cons b tail =>
      have dot : b = 0x2e := by simpa [rest] using List.head?_dropWhile_not (· != 0x2e) l
      have cut : BeforeDot (l.takeWhile (· != 0x2e) ++ 0x2e :: tail) (l.takeWhile (· != 0x2e)) :=
        .cut no_dot
      rw [dot] at rest
      rwa [← rest, parts] at cut

/-- In a text the part before the first dot is found among the characters. -/
theorem stem_eq_iff :
    stem text.toList = part.toList ↔ BeforeDot (Text.bytes text) (Text.bytes part) := by
  have bytes : (Text.bytes text).takeWhile (· != 0x2e) =
      Text.bytes (String.ofList (stem text.toList)) :=
    Text.takeWhile_bytes (show '.'.toNat < 128 by decide) text
  rw [beforeDot_iff, bytes, Text.bytes_inj, ← String.toList_inj, String.toList_ofList]

/-! ## Names -/

/-- A path and the name that it gives: the part before the first dot in its last component, which is text,
with the first character in upper case and underscores for hyphens. -/
inductive Names (path : Path) : String → Prop where
  | mk {text : String} {c : Char} {rest : List Char} (leads : path.LeadsTo (Text.bytes text))
    (before : BeforeDot (Text.bytes text) (Text.bytes (String.ofList (c :: rest)))) :
    Names path (String.ofList ((Text.capital c ++ rest).map fun d => if d = '-' then '_' else d))

/-- The name for a service: the one that is given, or else the one that the path gives. -/
inductive Named (path : Path) : Option String → String → Prop where
  | given {name : String} : Named path (some name) name
  | derived {name : String} (names : Names path name) : Named path none name

theorem fileName?_eq_some_iff :
    fileName? path = some component ↔ path.LeadsTo component ∧ component ≠ Text.bytes ".." := by
  rw [← Path.getLast?_components_eq_some_iff]
  unfold fileName?
  split
  · next last found =>
    rw [found, Option.some.injEq]
    split_ifs with up <;> rw [Path.isUp_iff] at up
    · exact ⟨nofun, fun ⟨eq, ne⟩ => absurd (eq ▸ up) ne⟩
    · rw [Option.some.injEq]
      exact ⟨fun eq => ⟨eq, eq ▸ up⟩, And.left⟩
  · next none => simp [none]

theorem nameOfPath?_eq_some_iff : nameOfPath? path = some name ↔ Names path name := by
  unfold nameOfPath?
  constructor
  · intro h
    split at h
    · exact nomatch h
    · exact nomatch h
    · next chars not_nil mapped =>
      obtain ⟨text, read, eq⟩ := Option.map_eq_some_iff.1 mapped
      obtain ⟨component, found, is_text⟩ := Option.bind_eq_some_iff.1 read
      obtain rfl := Text.ofBytes?_eq_some_iff.1 is_text
      obtain rfl := Option.some.inj h
      cases chars with
      | nil => exact absurd rfl not_nil
      | cons c rest =>
        have before : stem text.toList = (String.ofList (c :: rest)).toList := by
          rw [eq, String.toList_ofList]
        exact .mk (fileName?_eq_some_iff.1 found).1 (stem_eq_iff.1 before)
  · rintro @⟨text, c, rest, leads, before⟩
    have eq := stem_eq_iff.2 before
    rw [String.toList_ofList] at eq
    -- The part of `..` before its first dot is empty.
    have found : fileName? path = some (Text.bytes text) := by
      refine fileName?_eq_some_iff.2 ⟨leads, fun up => ?_⟩
      rw [Text.bytes_inj.1 up] at eq
      exact nomatch eq
    rw [found, Option.bind_some, Text.ofBytes?_eq_some_iff.2 rfl, Option.map_some, eq]
    rfl

/-- A path gives one name. -/
theorem Names.unique {other : String} (h : Names path name) (h' : Names path other) : name = other :=
  Option.some.inj ((nameOfPath?_eq_some_iff.2 h).symm.trans (nameOfPath?_eq_some_iff.2 h'))

theorem serviceName?_eq_some_iff : serviceName? path given = some name ↔ Named path given name := by
  cases given with
  | none =>
    refine nameOfPath?_eq_some_iff.trans ⟨.derived, ?_⟩
    rintro ⟨⟩
    assumption
  | some g =>
    show some g = some name ↔ _
    constructor
    · rintro ⟨⟩
      exact .given
    · rintro ⟨⟩
      rfl

theorem serviceName?_eq_none_iff :
    serviceName? path given = none ↔ ∀ name, ¬ Named path given name := by
  rw [Option.eq_none_iff_forall_ne_some]
  exact forall_congr' fun name => not_congr serviceName?_eq_some_iff

end ApiClients.CommandLine
