import ApiClients.Proofs.Api.Definition
import Mathlib.Data.List.Basic

/-!
# Parameters that fit an operation

The parameters of a call fit an operation (`Params.Fits`) if they are an object or `null`, if there are
none for an operation without input shape, and if they have all members that the input shape asks for.
All else is refused, for one reason (`Params.Refused`): of several members that are missing, it is the
one that the shape requires first (`Api.Requires`). `check_decides` says that the check comes to one of
the two.
-/

namespace ApiClients

variable {a : Api} {o : Operation} {shape member k : String} {params : Json} {t : Table Json}
  {items : List Json} {e : ParamsError}

/-! ## Required members -/

/-- The shape has a list `required` of these items, texts or not. -/
def Api.Requires (a : Api) (shape : String) (items : List Json) : Prop :=
  ∃ shapes t, a.definition.get? "shapes" = some (.object shapes) ∧
    shapes.get? shape = some (.object t) ∧ t.get? "required" = some (.array items)

theorem Api.requires_iff : a.Requires shape items ↔
    ((a.shape? shape).bind (·.get? "required")).bind Json.asArray? = some items := by
  simp only [Option.bind_eq_some_iff, Json.asArray?_eq_some_iff, shape?_eq_some_iff]
  constructor
  · rintro ⟨shapes, t, h₁, h₂, h₃⟩
    exact ⟨_, ⟨t, ⟨shapes, h₁, h₂⟩, h₃⟩, rfl⟩
  · rintro ⟨_, ⟨t, ⟨shapes, h₁, h₂⟩, h₃⟩, rfl⟩
    exact ⟨shapes, t, h₁, h₂, h₃⟩

namespace Params

theorem required_of_requires (h : a.Requires shape items) :
    required a shape = items.filterMap Json.asString? := by
  rw [required, Api.requires_iff.1 h, Option.getD_some]

/-- A shape without a list of required members requires nothing. -/
theorem required_of_not_requires (h : ∀ items, ¬ a.Requires shape items) : required a shape = [] := by
  have nothing : ((a.shape? shape).bind (·.get? "required")).bind Json.asArray? = none :=
    Option.eq_none_iff_forall_ne_some.2 fun items hi => h items (Api.requires_iff.2 hi)
  rw [required, nothing]
  rfl

/-- The first text of a list with a property is the one that has no other such text before it. -/
theorem find?_texts_eq_some_iff {p : String → Bool} :
    (items.filterMap Json.asString?).find? p = some member ↔
      p member = true ∧ ∃ before after, items = before ++ .string member :: after ∧
        ∀ other, .string other ∈ before → p other = false := by
  have text_iff (j : Json) : j.asString?.any p = true ↔ ∃ s, j = .string s ∧ p s = true := by
    cases j <;> simp [Json.asString?]
  rw [List.find?_filterMap, Option.bind_eq_some_iff]
  simp only [Json.asString?_eq_some_iff, exists_eq_right, List.find?_eq_some_iff_append, text_iff]
  refine and_congr (by simp) (exists_congr fun before => exists_congr fun after => ?_)
  refine and_congr_right fun _ => ⟨fun none_there other ho => ?_, fun none_there j hj => ?_⟩
  · by_contra there
    have not_text := none_there _ ho
    simp [Json.asString?, there] at not_text
  · cases j with
    | string other => simp [Json.asString?, none_there other hj]
    | _ => rfl

/-! ## The check -/

/-- The parameters have a member. -/
def Has (params : Json) (k : String) : Prop :=
  ∃ t, params = .object t ∧ t.contains k = true

/-- The parameters are those that an operation takes. -/
structure Fits (a : Api) (o : Operation) (params : Json) : Prop where
  object : params = .null ∨ ∃ t, params = .object t
  no_input : o.input = none → params = .null ∨ params = .object ∅
  required : ∀ shape member, o.input = some shape → a.Asks shape member → Has params member

/-- Why parameters are refused. -/
inductive Refused (a : Api) (o : Operation) (params : Json) : ParamsError → Prop where
  | notAnObject (not_null : params ≠ .null) (not_object : ∀ t, params ≠ .object t) :
      Refused a o params (.notAnObject o.name params.kind)
  | unexpected {t : Table Json} (no_input : o.input = none) (given : params = .object t)
      (nonempty : t ≠ ∅) : Refused a o params (.unexpected o.name)
  | missing {shape member : String} {before after : List Json}
      (object : params = .null ∨ ∃ t, params = .object t) (input : o.input = some shape)
      (requires : a.Requires shape (before ++ .string member :: after))
      (first : ∀ other, .string other ∈ before → Has params other)
      (absent : ¬ Has params member) : Refused a o params (.missing o.name member)

theorem members?_eq_some_iff :
    members? params = some t ↔ params = .null ∧ t = ∅ ∨ params = .object t := by
  cases params <;> simp [members?, eq_comm]

theorem members?_eq_none_iff :
    members? params = none ↔ params ≠ .null ∧ ∀ t, params ≠ .object t := by
  cases params <;> simp [members?]

theorem exists_members?_iff :
    (∃ t, members? params = some t) ↔ params = .null ∨ ∃ t, params = .object t := by
  cases params <;> simp [members?]

theorem has_iff (h : members? params = some t) : Has params k ↔ t.contains k = true := by
  rcases members?_eq_some_iff.1 h with ⟨rfl, rfl⟩ | rfl
  · simp [Has, Members.contains_eq_isSome]
  · simp [Has]

/-- The parameters that are accepted for an operation. -/
theorem check_eq_ok_iff :
    check a o params = .ok () ↔ ∃ t, members? params = some t ∧ (o.input = none → t = ∅) ∧
      ∀ shape, o.input = some shape → ∀ member, a.Asks shape member → t.contains member = true := by
  unfold check
  cases members? params with
  | none => simp
  | some t =>
    cases o.input with
    | none => simp [← Members.isEmpty_iff]
    | some shape =>
      dsimp only
      cases h : (required a shape).find? (!t.contains ·) with
      | none => simpa [← Api.mem_required_iff] using h
      | some member =>
        have missing : t.contains member = false := by simpa using List.find?_some h
        have asked : a.Asks shape member := Api.mem_required_iff.1 (List.mem_of_find?_eq_some h)
        have refuted : ¬ ∀ member, a.Asks shape member → t.contains member = true :=
          fun all => nomatch missing.symm.trans (all member asked)
        simp [refuted]

/-- The check accepts the parameters that fit. -/
theorem check_eq_ok_iff_fits : check a o params = .ok () ↔ Fits a o params := by
  rw [check_eq_ok_iff]
  constructor
  · rintro ⟨t, given, no_input, required⟩
    refine ⟨exists_members?_iff.1 ⟨t, given⟩, fun none => ?_, fun shape member input asked =>
      (has_iff given).2 (required shape input member asked)⟩
    obtain rfl := no_input none
    exact (members?_eq_some_iff.1 given).imp_left And.left
  · rintro ⟨object, no_input, required⟩
    obtain ⟨t, given⟩ := exists_members?_iff.2 object
    refine ⟨t, given, fun none => ?_, fun shape input member asked =>
      (has_iff given).1 (required shape member input asked)⟩
    rcases no_input none with rfl | rfl
    · exact (Option.some.inj given).symm
    · exact (Option.some.inj given).symm

/-- What the check finds missing is the first member that is. -/
theorem find?_required_eq_some_iff (h : members? params = some t) :
    (required a shape).find? (!t.contains ·) = some member ↔
      ∃ before after, a.Requires shape (before ++ .string member :: after) ∧
        (∀ other, .string other ∈ before → Has params other) ∧ ¬ Has params member := by
  simp only [has_iff h]
  by_cases listed : ∃ items, a.Requires shape items
  · obtain ⟨items, requires⟩ := listed
    have unique : ∀ others, a.Requires shape others ↔ items = others := by
      intro others
      rw [Api.requires_iff, Api.requires_iff.1 requires, Option.some.injEq]
    simp only [required_of_requires requires, find?_texts_eq_some_iff, unique, Bool.not_eq_true',
      Bool.not_eq_false', Bool.not_eq_true]
    constructor
    · rintro ⟨absent, before, after, eq, first⟩
      exact ⟨before, after, eq, first, absent⟩
    · rintro ⟨before, after, eq, first, absent⟩
      exact ⟨absent, before, after, eq, first⟩
  · rw [not_exists] at listed
    simp [required_of_not_requires listed, listed]

/-- The check refuses parameters for the reasons that there are. -/
theorem check_eq_error_iff : check a o params = .error e ↔ Refused a o params e := by
  constructor
  · intro h
    unfold check at h
    cases given : members? params with
    | none =>
      obtain ⟨not_null, not_object⟩ := members?_eq_none_iff.1 given
      rw [given] at h
      cases h
      exact .notAnObject not_null not_object
    | some t =>
      rw [given] at h
      cases input : o.input with
      | none =>
        simp only [input] at h
        split_ifs at h with empty
        cases h
        rcases members?_eq_some_iff.1 given with ⟨-, rfl⟩ | eq
        · exact absurd rfl empty
        · exact .unexpected input eq fun none => empty (Members.isEmpty_iff.2 none)
      | some shape =>
        simp only [input] at h
        cases missing : (required a shape).find? (!t.contains ·) with
        | none =>
          rw [missing] at h
          exact nomatch h
        | some member =>
          rw [missing] at h
          cases h
          obtain ⟨before, after, requires, first, absent⟩ :=
            (find?_required_eq_some_iff given).1 missing
          exact .missing (exists_members?_iff.1 ⟨t, given⟩) input requires first absent
  · intro h
    unfold check
    cases h with
    | notAnObject not_null not_object => rw [members?_eq_none_iff.2 ⟨not_null, not_object⟩]
    | @unexpected t no_input given nonempty =>
      have not_empty : ¬ t.isEmpty = true := fun empty => nonempty (Members.isEmpty_iff.1 empty)
      simp only [given, members?, no_input, if_neg not_empty]
    | @missing shape member before after object input requires first absent =>
      obtain ⟨t, given⟩ := exists_members?_iff.2 object
      simp only [given, input,
        (find?_required_eq_some_iff given).2 ⟨before, after, requires, first, absent⟩]

/-- The check of parameters decides whether they fit, and if not, for which of the reasons. `null` is
judged as the empty object; and where there is an input shape, an object that has all members of
accepted parameters is accepted, too. -/
theorem check_decides (a : Api) (o : Operation) :
    (∀ params, (check a o params = .ok () ↔ Fits a o params) ∧
      ∀ e, check a o params = .error e ↔ Refused a o params e) ∧
    check a o .null = check a o (.object ∅) ∧
    ∀ params t, o.input.isSome = true → check a o params = .ok () →
      (∀ k, Has params k → t.contains k = true) → check a o (.object t) = .ok () := by
  refine ⟨fun params => ⟨check_eq_ok_iff_fits, fun e => check_eq_error_iff⟩, rfl, ?_⟩
  intro params t takes accepted more
  obtain ⟨-, -, required⟩ := check_eq_ok_iff_fits.1 accepted
  refine check_eq_ok_iff_fits.2 ⟨.inr ⟨t, rfl⟩, fun none => ?_, fun shape member input asked => ?_⟩
  · rw [none] at takes
    exact nomatch takes
  · exact ⟨t, rfl, more member (required shape member input asked)⟩

/-- A list with a member that is no text and one that is there twice. -/
theorem check_decides_put :
    let a : Api := ⟨.ofList [("shapes", .ofMembers [("PutRequest", .ofMembers
      [("required", .array [.string "Key", .bool true, .string "Bucket", .string "Key"])])])], 0⟩
    let put : Operation := ⟨"Put", {}, some "PutRequest", none, [], none⟩
    let having (keys : List String) : Table Json := .ofList (keys.map fun k => (k, .null))
    check a put (.object (having ["Bucket", "Key"])) = .ok () ∧
      check a put (.object (having ["Bucket", "Key", "Tag"])) = .ok () ∧
      Fits a put (.object (having ["Bucket", "Key", "Tag"])) ∧
      Refused a put (.object (having ["Key"])) (.missing "Put" "Bucket") ∧
      check a put .null = .error (.missing "Put" "Key") := by
  intro a put having
  obtain ⟨decides, null, more⟩ := check_decides a put
  have accepted : check a put (.object (having ["Bucket", "Key"])) = .ok () := by decide +kernel
  have missing : check a put (.object (having ["Key"])) = .error (.missing "Put" "Bucket") := by
    decide +kernel
  have absent : check a put (.object ∅) = .error (.missing "Put" "Key") := by decide +kernel
  have there : ∀ k, Has (.object (having ["Bucket", "Key"])) k →
      (having ["Bucket", "Key", "Tag"]).contains k = true := by
    rintro k ⟨t, eq, has⟩
    cases eq
    have listed : k ∈ (having ["Bucket", "Key"]).keys := (Members.mem_keys_iff_contains _).2 has
    have keys : (having ["Bucket", "Key"]).keys = ["Bucket", "Key"] := by decide +kernel
    rw [keys] at listed
    rcases List.mem_pair.1 listed with rfl | rfl
    · decide +kernel
    · decide +kernel
  have kept := more _ _ rfl accepted there
  exact ⟨accepted, kept, (decides _).1.1 kept, ((decides _).2 _).1 missing, null.trans absent⟩

end Params

end ApiClients
