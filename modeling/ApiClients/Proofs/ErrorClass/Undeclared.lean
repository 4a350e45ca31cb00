import ApiClients.Proofs.ErrorClass.Classification

/-!
# The classes of undeclared codes

A code that is not declared gets a class that no namespace lists. Its name is kept apart from the names
in the namespace (`Classified.made`), but not from the names that other codes give, and an error is asked
for its classes by name. `isA_undeclared_iff` says how far such classes tell codes apart: the errors of
the class of an undeclared code are those whose codes give the same name, and none of them is declared.
`foo_isA_Foo` is a case of two codes with the same name.
-/

namespace ApiClients.ErrorNamespace

open ErrorClass

variable {n : ErrorNamespace} {codes : List String} {service d x : String}

section Holds

variable (h : Holds n service (ownNaming codes)) (separable : Separable codes)

include h

theorem Holds.mem_classNames_of_declared {c : String} (hc : c ∈ codes) (named : name? c = some x) :
    x ∈ n.classNames :=
  h.mem_classNames_iff.2 (.inr ⟨_, h.mem_classes_iff.2 ⟨x, c, ⟨hc, named⟩, rfl⟩, rfl⟩)

include separable

/-- A class has a name that is free only if its code gives that name. -/
theorem Holds.name_eq_iff_of_free (free : x ∉ n.classNames) (c : String) :
    (n.classOf c).name = x ↔ name? c = some x := by
  have classified := h.classified separable c
  generalize n.classOf c = k at classified
  cases classified with
  | declared _ named =>
    rw [named, Option.some.injEq]
    rfl
  | made _ named =>
    rw [named, Option.some.injEq]
    rfl
  | base _ taken =>
    have other : n.base.name ≠ x := by
      rintro rfl
      rw [h.base] at free
      exact free (h.mem_classNames_iff.2 (.inl rfl))
    exact ⟨fun eq => absurd eq other, fun named => absurd (taken x named) free⟩

/-- Outside the base class, the class of an undeclared code has a name that is free. -/
theorem Holds.exists_free_of_undeclared (hd : d ∉ codes) (below : n.classOf d ≠ n.base) :
    ∃ x, name? d = some x ∧ x ∉ n.classNames ∧ n.classOf d = .derived n.service x d false := by
  have classified := h.classified separable d
  generalize n.classOf d = k at classified below
  cases classified with
  | declared mem => exact absurd mem hd
  | made _ named free => exact ⟨_, named, free, rfl⟩
  | base => exact absurd rfl below

end Holds

/-- Outside the base class, the class of an undeclared code has below it the classes of the codes that
give the same name, and no others. An error is of that class exactly if its code gives the same name,
and then its code is not declared either. -/
theorem isA_undeclared_iff {a : Api} (h : ofApi service a = .ok n)
    (undeclared : n.declaredClass? d = none) (below : n.classOf d ≠ n.base) :
    (∀ c, (n.classOf c).descendsFrom (n.classOf d) = true ↔ name? c = name? d) ∧
    (∀ c text context, (n.raise c text context).isA (n.classOf d) = true ↔ name? c = name? d) ∧
    ∀ c, name? c = name? d → n.declaredClass? c = none := by
  obtain ⟨separable, holds⟩ := holds_of_ofApi h
  have isSome_iff := (holds.covers separable a.pairwise_errorCodes).isSome_iff
  have hd : d ∉ a.errorCodes := by
    rw [← isSome_iff, undeclared]
    exact nofun
  obtain ⟨x, named, free, eq⟩ := holds.exists_free_of_undeclared separable hd below
  have descends (c : String) :
      (n.classOf c).descendsFrom (n.classOf d) = true ↔ name? c = name? d := by
    have owner : (n.classOf c).service = n.service :=
      (holds.service_classOf separable c).trans holds.owner.symm
    rw [eq, descendsFrom_derived_iff, and_iff_right owner, holds.name_eq_iff_of_free separable free,
      named]
  refine ⟨descends, fun c text context => descends c, fun c same => ?_⟩
  by_contra declared
  have hc : c ∈ a.errorCodes := (isSome_iff c).1 (Option.isSome_iff_ne_none.2 declared)
  exact free (holds.mem_classNames_of_declared hc (same.trans named))

/-- The codes `SlowDown` and `slow-down` give the same name, and `Throttling` gives another. -/
theorem isA_undeclared_iff_slow_down :
    let n : ErrorNamespace := { service := "S" }
    let e (code : String) : ServiceError := n.raise code "" ⟨"S", "Op", .null⟩
    ofApi "S" ⟨∅, 0⟩ = .ok n ∧ n.declaredClass? "SlowDown" = none ∧ n.classOf "SlowDown" ≠ n.base ∧
      (e "slow-down").isA (n.classOf "SlowDown") = true ∧
      (e "Throttling").isA (n.classOf "SlowDown") = false := by
  intro n e
  have made : ofApi "S" ⟨∅, 0⟩ = .ok n := by decide +kernel
  have below : n.classOf "SlowDown" ≠ n.base := by decide +kernel
  obtain ⟨-, isA, -⟩ := isA_undeclared_iff made (d := "SlowDown") rfl below
  refine ⟨made, rfl, below, (isA ..).2 (by decide +kernel), ?_⟩
  rw [Bool.eq_false_iff, ne_eq, isA]
  decide +kernel

/-- Two codes may be undeclared, with classes below the base class, and yet an error of the one be of
the class of the other. -/
theorem foo_isA_Foo :
    let n : ErrorNamespace := { service := "S" }
    let e (code : String) : ServiceError := n.raise code "" ⟨"S", "Op", .null⟩
    ofApi "S" ⟨∅, 0⟩ = .ok n ∧ n.declaredClass? "foo" = none ∧ n.declaredClass? "Foo" = none ∧
      n.classOf "foo" ≠ n.base ∧ n.classOf "Foo" ≠ n.base ∧
      (n.classOf "foo").descendsFrom (n.classOf "Foo") = true ∧
      (n.classOf "Foo").descendsFrom (n.classOf "foo") = true ∧
      (e "foo").isA (n.classOf "Foo") = true := by
  decide +kernel

end ApiClients.ErrorNamespace
