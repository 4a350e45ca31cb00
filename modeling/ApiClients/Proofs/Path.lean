import ApiClients.Path
import ApiClients.Proofs.Text.Utf8
import Mathlib.Data.List.Basic

/-!
# Components of paths

The last component of a path is the one in writing (`LeadsTo`): what stands behind its last slash, if the
components at the end do not count that lead to the directory they stand in (`Idle`).
`getLast?_components_eq_some_iff` says so of the components that the slashes cut out, for all paths.
-/

namespace ApiClients.Path

variable {p : Path} {component l m : List UInt8}

/-! ## Paths that are text -/

theorem isEmpty_iff : p.isEmpty = true ↔ p = ofText "" := by
  cases p
  exact List.isEmpty_iff.trans (mk.injEq ..).symm.to_iff

/-- A path that is text is shown as it is. -/
theorem display_ofText (s : String) : (ofText s).display = s :=
  Text.shown_bytes s

/-! ## The last component -/

/-- A component of a path that leads to the directory it stands in. -/
def Idle (component : Component) : Prop :=
  component = Text.bytes "" ∨ component = Text.bytes "."

instance : DecidablePred Idle := fun component =>
  inferInstanceAs (Decidable (component = Text.bytes "" ∨ component = Text.bytes "."))

/-- What does not count at the end of a path: idle components, each with the slash before it. -/
inductive Trails : List UInt8 → Prop where
  | nothing : Trails []
  | append {trail : List UInt8} {component : Component} (h : Trails trail) (idle : Idle component) :
    Trails (trail ++ 0x2f :: component)

/-- A path and its last component, neither of which need be text. -/
inductive LeadsTo : Path → Component → Prop where
  | alone {component : Component} {trail : List UInt8} (no_slash : 0x2f ∉ component)
    (active : ¬ Idle component) (trails : Trails trail) : LeadsTo ⟨component ++ trail⟩ component
  | below {directory trail : List UInt8} {component : Component} (no_slash : 0x2f ∉ component)
    (active : ¬ Idle component) (trails : Trails trail) :
    LeadsTo ⟨directory ++ 0x2f :: (component ++ trail)⟩ component

theorem isIdle_iff : isIdle component = true ↔ Idle component := by
  simp [isIdle, Idle, show Text.bytes "" = [] by rfl]

theorem isUp_iff : isUp component = true ↔ component = Text.bytes ".." :=
  beq_iff_eq

/-- The components that are not idle. -/
def activeComponents (l : List UInt8) : List Component :=
  (l.splitOn slash).filter (!isIdle ·)

theorem activeComponents_append (l m : List UInt8) :
    activeComponents (l ++ 0x2f :: m) = activeComponents l ++ activeComponents m := by
  have cut : (l ++ 0x2f :: m).splitOn slash = l.splitOn slash ++ m.splitOn slash :=
    List.splitOn_append_cons_self ..
  rw [activeComponents, cut, List.filter_append, activeComponents, activeComponents]

theorem activeComponents_of_idle (h : Idle l) : activeComponents l = [] := by
  rcases h with rfl | rfl <;> decide

theorem activeComponents_of_active (no_slash : 0x2f ∉ l) (active : ¬ Idle l) :
    activeComponents l = [l] := by
  have piece : l.splitOn slash = [l] := List.splitOn_eq_singleton no_slash
  rw [activeComponents, piece, List.filter_eq_self]
  simpa [← isIdle_iff] using active

theorem activeComponents_of_trails (h : Trails m) (l : List UInt8) :
    activeComponents (l ++ m) = activeComponents l := by
  induction h with
  | nothing => rw [List.append_nil]
  | append _ idle ih =>
    rw [← List.append_assoc, activeComponents_append, activeComponents_of_idle idle,
      List.append_nil, ih]

/-- More idle components may follow. -/
theorem LeadsTo.append (h : LeadsTo ⟨l⟩ component) (idle : Idle m) :
    LeadsTo ⟨l ++ 0x2f :: m⟩ component := by
  cases h with
  | alone no_slash active trails =>
    rw [List.append_assoc]
    exact .alone no_slash active (trails.append idle)
  | below no_slash active trails =>
    rw [List.append_assoc, List.cons_append, List.append_assoc]
    exact .below no_slash active (trails.append idle)

/-- A path is a component, or it has a last one behind its last slash. -/
@[elab_as_elim]
theorem slash_induction {motive : List UInt8 → Prop} (piece : ∀ l, 0x2f ∉ l → motive l)
    (append : ∀ l last, 0x2f ∉ last → motive l → motive (l ++ 0x2f :: last)) (l : List UInt8) :
    motive l := by
  induction h : l.length using Nat.strong_induction_on generalizing l with
  | h n ih =>
    by_cases absent : 0x2f ∉ l
    · exact piece l absent
    · have present : 0x2f ∈ l.reverse := by simpa using absent
      obtain ⟨last, before, cut, clear⟩ := List.eq_append_cons_of_mem present
      have eq : l = before.reverse ++ 0x2f :: last.reverse := by
        rw [← List.reverse_reverse l, cut]
        simp
      have shorter : before.reverse.length < n := by
        rw [← h, eq]
        simp
      rw [eq]
      exact append _ _ (by simpa using clear) (ih _ shorter _ rfl)

/-- The last component in writing is the last that is cut out and counts. -/
theorem getLast?_components_eq_some_iff :
    (p.components.filter (!isIdle ·)).getLast? = some component ↔ LeadsTo p component := by
  obtain ⟨l⟩ := p
  show (activeComponents l).getLast? = some component ↔ LeadsTo ⟨l⟩ component
  constructor
  · intro h
    -- What is behind the last slash is the last component, or it is idle and the component is before it.
    induction l using slash_induction with
    | piece l no_slash =>
      by_cases idle : Idle l
      · rw [activeComponents_of_idle idle] at h
        exact nomatch h
      · rw [activeComponents_of_active no_slash idle] at h
        obtain rfl : l = component := Option.some.inj h
        simpa using LeadsTo.alone no_slash idle .nothing
    | append l last no_slash ih =>
      rw [activeComponents_append] at h
      by_cases idle : Idle last
      · rw [activeComponents_of_idle idle, List.append_nil] at h
        exact (ih h).append idle
      · rw [activeComponents_of_active no_slash idle, List.getLast?_concat] at h
        obtain rfl : last = component := Option.some.inj h
        simpa using LeadsTo.below no_slash idle .nothing
  · intro h
    cases h with
    | alone no_slash active trails =>
      rw [activeComponents_of_trails trails, activeComponents_of_active no_slash active]
      rfl
    | below no_slash active trails =>
      rw [activeComponents_append, activeComponents_of_trails trails,
        activeComponents_of_active no_slash active, List.getLast?_concat]

end ApiClients.Path
