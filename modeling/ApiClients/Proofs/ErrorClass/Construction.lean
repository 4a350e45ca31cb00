import ApiClients.Proofs.Api.Definition
import ApiClients.Proofs.ErrorClass.Grouping
import Mathlib.Data.List.Nodup

/-!
# The construction of error namespaces

The second loop that makes an error namespace declares a class for each group of codes, and stops at
the least name that is a collision. `ofApi_iff` says what comes of both loops for the codes of an API:

1. A namespace, exactly if the codes can all have classes of their own. It holds one class for each
   code and no other (`Covers`).
2. The least code without a name, if there is one.
3. Otherwise the least name that its codes cannot all have, with these codes.

`emitted_foldlM` carries what is known of the groups so far through the loop. As the codes can be read off
a namespace again (`keys_names_of_ofCodes`), it is known by its service and its codes, and they by it
(`ofApi_determined_by_codes`).
-/

namespace ApiClients.ErrorNamespace

open ErrorClass

variable {n : ErrorNamespace} {groups : Table (List String)} {codes : List String}
  {service c x : String}

/-- The declared classes of a namespace are those of the codes. -/
structure Covers (n : ErrorNamespace) (codes : List String) : Prop where
  size : n.size = codes.length
  classNames : ∃ names, n.classNames = baseName :: names ∧ Text.Ascending names ∧
    ∀ x, x ∈ names ↔ ∃ c ∈ codes, name? c = some x
  isSome_iff : ∀ c, (n.declaredClass? c).isSome = true ↔ c ∈ codes
  class?_eq : ∀ c k, n.declaredClass? c = some k → ∃ x, name? c = some x ∧ n.class? x = some k
  declared : ∀ c k, n.declaredClass? c = some k →
    k.code? = some c ∧ k.isDeclared = true ∧ k.isBase = false
  classes : ∀ k ∈ n.classes, ∃ c, k.code? = some c ∧ n.declaredClass? c = some k

/-! ## The second loop -/

/-- A relation between names and codes. -/
abbrev Naming : Type := String → String → Prop

/-- Both tables of a namespace hold the classes that a naming says: the one finds them by their
names, and the other finds their names by their codes. -/
structure Holds (n : ErrorNamespace) (service : String) (naming : Naming) : Prop where
  owner : n.service = service
  base : n.base = .base service
  declared : ∀ x k, n.declared.get? x = some k ↔
    ∃ c, naming x c ∧ k = .derived service x c true
  names : ∀ c x, n.names.get? c = some x ↔ naming x c

/-- A class with a new name and a new code is declared beside the others. -/
theorem Holds.withClass {naming : Naming} (h : Holds n service naming)
    (new_name : ∀ d, ¬ naming x d) (new_code : ∀ y, ¬ naming y c) :
    Holds (n.withClass x c) service fun y d => naming y d ∨ y = x ∧ d = c := by
  refine ⟨h.owner, h.base, fun y k => ?_, fun d y => ?_⟩
  · show (n.declared.insert x (.derived n.service x c true)).get? y = some k ↔ _
    rw [Members.get?_insert, h.owner]
    split_ifs with hy
    · subst hy
      simp [new_name, eq_comm]
    · simp [h.declared, hy]
  · show (n.names.insert c x).get? d = some y ↔ _
    rw [Members.get?_insert]
    split_ifs with hd
    · subst hd
      simp [new_code, eq_comm]
    · simp [h.names, hd]

/-- What declaring classes for groups comes to: the least name that is a collision, or a namespace
that holds the classes of `naming` and one for each group, none of which is a collision. -/
def Emitted (service : String) (naming : Naming) {lo : Option String}
    (groups : Members (List String) lo) : Except NamespaceError ErrorNamespace → Prop
  | .error e => ∃ x l, e = .collision x l ∧ groups.get? x = some l ∧ isCollision x l = true ∧
      ∀ y m, groups.get? y = some m → isCollision y m = true → y ≠ x → x < y
  | .ok n => (∀ x l, groups.get? x = some l → isCollision x l = false) ∧
      Holds n service fun x c => naming x c ∨ groups.get? x = some [c]

/-- A first group that is no collision puts its class before those of the others. -/
theorem Emitted.cons {naming : Naming} {lo : Option String} {above : ∀ b ∈ lo, b < x}
    {rest : Members (List String) (some x)} {outcome : Except NamespaceError ErrorNamespace}
    (h : Emitted service (fun y d => naming y d ∨ y = x ∧ d = c) rest outcome)
    (single : isCollision x [c] = false) :
    Emitted service naming (.cons x above [c] rest) outcome := by
  cases outcome with
  | error e =>
    obtain ⟨y, m, rfl, hy, hm, least⟩ := h
    refine ⟨y, m, rfl, Members.get?_cons_eq_some_iff.2 (.inr hy), hm, fun z m hz hm ne => ?_⟩
    rcases Members.get?_cons_eq_some_iff.1 hz with ⟨rfl, rfl⟩ | hz
    · exact nomatch single.symm.trans hm
    · exact least z m hz hm ne
  | ok n =>
    obtain ⟨singles, holds⟩ := h
    constructor
    · intro y m hy
      rcases Members.get?_cons_eq_some_iff.1 hy with ⟨rfl, rfl⟩ | hy
      · exact single
      · exact singles y m hy
    · have same : (fun y d => naming y d ∨ (Members.cons x above [c] rest).get? y = some [d]) =
          fun y d => (naming y d ∨ y = x ∧ d = c) ∨ rest.get? y = some [d] := by
        funext y d
        rw [Members.get?_cons_eq_some_iff, List.singleton_inj, or_assoc, @eq_comm _ c]
      rwa [same]

/-- The induction is on the chain of groups that are still to come. Codes lie in the group of their
name, so the code of a new group is new when the name is. -/
theorem emitted_foldlM {lo : Option String} (groups : Members (List String) lo)
    {n : ErrorNamespace} {naming : Naming} (holds : Holds n service naming)
    (proper : ∀ x l, groups.get? x = some l → l ≠ [] ∧ ∀ c ∈ l, name? c = some x)
    (own : ∀ x c, naming x c → name? c = some x)
    (new : ∀ x l, groups.get? x = some l → ∀ c, ¬ naming x c) :
    Emitted service naming groups (groups.toList.foldlM declare n) := by
  induction groups generalizing n naming with
  | nil => exact ⟨by simp, by simpa using holds⟩
  | cons x above l rest ih =>
    have here : (Members.cons x above l rest).get? x = some l :=
      Members.get?_cons_eq_some_iff.2 (.inl ⟨rfl, rfl⟩)
    have later : ∀ y m, rest.get? y = some m → (Members.cons x above l rest).get? y = some m :=
      fun y m hy => Members.get?_cons_eq_some_iff.2 (.inr hy)
    rw [Members.toList_cons, List.foldlM_cons]
    cases hcol : isCollision x l with
    | true =>
      have refused : declare n (x, l) = .error (.collision x l) := if_pos hcol
      rw [refused]
      refine ⟨x, l, rfl, here, hcol, fun y m hy _ ne => ?_⟩
      rcases Members.get?_cons_eq_some_iff.1 hy with ⟨rfl, -⟩ | hy
      · exact absurd rfl ne
      · exact Members.lt_of_get?_eq_some hy
    | false =>
      obtain ⟨not_nil, named⟩ := proper x l here
      obtain ⟨c, rfl⟩ := eq_singleton_of_not_isCollision not_nil hcol
      have hc : name? c = some x := named c (by simp)
      have declared : declare n (x, [c]) = .ok (n.withClass x c) := if_neg (by simp [hcol])
      have new_code : ∀ y, ¬ naming y c := by
        intro y hy
        obtain rfl : x = y := Option.some.inj (hc.symm.trans (own y c hy))
        exact new x [c] here c hy
      rw [declared]
      refine Emitted.cons ?_ hcol
      refine ih (holds.withClass (new x [c] here) new_code)
        (fun y m hy => proper y m (later y m hy)) ?_ ?_
      · rintro y d (h | ⟨rfl, rfl⟩)
        · exact own y d h
        · exact hc
      · rintro y m hy d (h | ⟨rfl, -⟩)
        · exact new y m (later y m hy) d h
        · exact String.lt_irrefl _ (Members.lt_of_get?_eq_some hy)

theorem emitted_groups (service : String)
    (proper : ∀ x l, groups.get? x = some l → l ≠ [] ∧ ∀ c ∈ l, name? c = some x) :
    Emitted service (fun _ _ => False) groups (groups.toList.foldlM declare { service }) := by
  refine emitted_foldlM groups ⟨rfl, rfl, by simp, by simp⟩ proper ?_ ?_
  · exact fun _ _ h => h.elim
  · exact fun _ _ _ _ h => h

/-! ## Classes of all codes -/

/-- The naming that gives every code its own name. -/
def ownNaming (codes : List String) : Naming :=
  fun x c => c ∈ codes ∧ name? c = some x

theorem Holds.declaredClass?_eq_some_iff {k : ErrorClass} (h : Holds n service (ownNaming codes))
    (separable : Separable codes) :
    n.declaredClass? c = some k ↔
      ∃ x, ownNaming codes x c ∧ k = .derived service x c true := by
  rw [declaredClass?, Option.bind_eq_some_iff]
  simp only [h.names, h.declared]
  constructor
  · rintro ⟨x, hx, d, hd, rfl⟩
    obtain rfl : d = c := separable.injective d hd.1 c hx.1 (hd.2.trans hx.2.symm)
    exact ⟨x, hx, rfl⟩
  · rintro ⟨x, hx, rfl⟩
    exact ⟨x, hx, c, hx, rfl⟩

/-- A declared class is found by its name, for this is not the name of the base class. -/
theorem Holds.class?_eq (h : Holds n service (ownNaming codes)) (separable : Separable codes)
    (hx : ownNaming codes x c) : n.class? x = some (.derived service x c true) := by
  have not_base : x ≠ baseName := by
    rintro rfl
    exact separable.not_base c hx.1 hx.2
  rw [class?, if_neg not_base, h.declared]
  exact ⟨c, hx, rfl⟩

theorem Holds.mem_keys_iff (h : Holds n service (ownNaming codes)) :
    x ∈ n.declared.keys ↔ ∃ c ∈ codes, name? c = some x := by
  rw [Members.mem_keys_iff]
  simp only [h.declared]
  constructor
  · rintro ⟨_, c, hc, -⟩
    exact ⟨c, hc⟩
  · rintro ⟨c, hc⟩
    exact ⟨_, c, hc, rfl⟩

/-- Names are given to as many codes as there are names. -/
theorem Holds.size_eq (h : Holds n service (ownNaming codes)) (separable : Separable codes)
    (ascending : codes.Pairwise (· < ·)) : n.size = codes.length := by
  have named : ∀ c ∈ codes, ∃ x, name? c = some x :=
    fun c hc => exists_name_iff.2 (separable.hasWord c hc)
  -- The names of the codes, one for each, are a permutation of the keys.
  let names := codes.map fun c => (name? c).getD ""
  have nodup : names.Nodup := by
    refine List.Nodup.map_on (fun c hc d hd eq => ?_) (Members.nodup_of_pairwise ascending)
    obtain ⟨x, hx⟩ := named c hc
    obtain ⟨y, hy⟩ := named d hd
    rw [hx, hy, Option.getD_some, Option.getD_some] at eq
    exact separable.injective c hc d hd (by rw [hx, hy, eq])
  have perm : n.declared.keys.Perm names := by
    refine (List.perm_ext_iff_of_nodup (Members.nodup_of_pairwise n.declared.pairwise_keys)
      nodup).2 fun x => ?_
    rw [h.mem_keys_iff, List.mem_map]
    refine exists_congr fun c => and_congr_right fun hc => ?_
    obtain ⟨y, hy⟩ := named c hc
    simp [hy]
  have length : n.declared.keys.length = codes.length := by
    rw [perm.length_eq, List.length_map]
  simpa [Members.keys, size, Members.size] using length

theorem Holds.covers (h : Holds n service (ownNaming codes)) (separable : Separable codes)
    (ascending : codes.Pairwise (· < ·)) : Covers n codes where
  size := h.size_eq separable ascending
  classNames := ⟨n.declared.keys, rfl, Text.ascending_iff.2 n.declared.pairwise_keys,
    fun _ => h.mem_keys_iff⟩
  isSome_iff c := by
    rw [Option.isSome_iff_exists]
    simp only [h.declaredClass?_eq_some_iff separable]
    constructor
    · rintro ⟨_, x, hx, -⟩
      exact hx.1
    · intro hc
      obtain ⟨x, hx⟩ := exists_name_iff.2 (separable.hasWord c hc)
      exact ⟨_, x, ⟨hc, hx⟩, rfl⟩
  class?_eq c k hk := by
    obtain ⟨x, hx, rfl⟩ := (h.declaredClass?_eq_some_iff separable).1 hk
    exact ⟨x, hx.2, h.class?_eq separable hx⟩
  declared c k hk := by
    obtain ⟨x, -, rfl⟩ := (h.declaredClass?_eq_some_iff separable).1 hk
    exact ⟨rfl, rfl, rfl⟩
  classes k hk := by
    obtain ⟨x, hx⟩ := (Members.mem_values_iff _).1 hk
    obtain ⟨c, hc, rfl⟩ := (h.declared x k).1 hx
    exact ⟨c, rfl, (h.declaredClass?_eq_some_iff separable).2 ⟨x, hc, rfl⟩⟩

/-! ## The outcome -/

/-- Codes of which a namespace is made have classes of their own, and it holds these. -/
theorem holds_of_ofCodes (ascending : codes.Pairwise (· < ·)) (h : ofCodes service codes = .ok n) :
    Separable codes ∧ Holds n service (ownNaming codes) := by
  have grouping := groupedAs_group ascending
  unfold ofCodes at h
  cases hg : group codes with
  | error e =>
    rw [hg] at h
    exact nomatch h
  | ok groups =>
    rw [hg] at h grouping
    obtain ⟨hasWord, grouped⟩ := grouping
    have hd : groups.toList.foldlM declare { service } = .ok n := h
    have emitted := emitted_groups service fun x l => grouped.proper
    rw [hd] at emitted
    obtain ⟨singles, holds⟩ := emitted
    have separable : Separable codes := by
      refine separable_iff.2 ⟨hasWord, fun x offends => ?_⟩
      obtain ⟨l, hl, collision⟩ := (grouped.offends_iff ascending).1 offends
      exact nomatch (singles x l hl).symm.trans collision
    have naming : (fun x c => False ∨ groups.get? x = some [c]) = ownNaming codes := by
      funext x c
      rw [false_or, grouped.get?_eq_singleton_iff singles, ownNaming]
    rw [naming] at holds
    exact ⟨separable, holds⟩

/-- What the construction comes to. -/
def Constructed (service : String) (codes : List String) :
    Except NamespaceError ErrorNamespace → Prop
  | .ok n => Separable codes ∧ n.service = service ∧ n.base = .base service ∧ Covers n codes
  | .error (.unnamed c) => Text.Least (fun c => c ∈ codes ∧ ¬ HasWord c) c
  | .error (.collision x l) => (∀ c ∈ codes, HasWord c) ∧ Text.Least (Offends codes) x ∧
      Text.Ascending l ∧ ∀ c, c ∈ l ↔ c ∈ codes ∧ name? c = some x

theorem constructed_ofCodes (service : String) (ascending : codes.Pairwise (· < ·)) :
    Constructed service codes (ofCodes service codes) := by
  have grouping := groupedAs_group ascending
  unfold ofCodes
  cases hg : group codes with
  | error e =>
    rw [hg] at grouping
    obtain ⟨c, rfl, least⟩ := grouping
    exact least
  | ok groups =>
    rw [hg] at grouping
    obtain ⟨hasWord, grouped⟩ := grouping
    have emitted := emitted_groups service fun x l => grouped.proper
    show Constructed service codes (groups.toList.foldlM declare { service })
    cases hd : groups.toList.foldlM declare { service } with
    | error e =>
      rw [hd] at emitted
      obtain ⟨x, l, rfl, hl, collision, least⟩ := emitted
      refine ⟨hasWord, Text.least_iff.2 ⟨(grouped.offends_iff ascending).2 ⟨l, hl, collision⟩, ?_⟩,
        Text.ascending_iff.2 (grouped.ascending ascending hl), fun c => grouped.mem_iff hl⟩
      intro y offends ne
      obtain ⟨m, hm, collision⟩ := (grouped.offends_iff ascending).1 offends
      exact least y m hm collision ne
    | ok n =>
      have made : ofCodes service codes = .ok n := by
        rw [ofCodes, hg]
        exact hd
      obtain ⟨separable, holds⟩ := holds_of_ofCodes ascending made
      exact ⟨separable, holds.owner, holds.base, holds.covers separable ascending⟩

/-- Every outcome of making the namespace of an API, with what it depends on: the codes that the API
declares. -/
theorem ofApi_iff (service : String) (a : Api) :
    let codes := a.errorCodes
    let outcome := ofApi service a
    ((∃ n, outcome = .ok n) ↔ Separable codes) ∧
    (∀ n, outcome = .ok n → n.service = service ∧ n.base = .base service ∧ Covers n codes) ∧
    (∀ c, outcome = .error (.unnamed c) ↔ Text.Least (fun c => c ∈ codes ∧ ¬ HasWord c) c) ∧
    (∀ x l, outcome = .error (.collision x l) ↔
      (∀ c ∈ codes, HasWord c) ∧ Text.Least (Offends codes) x ∧ Text.Ascending l ∧
        ∀ c, c ∈ l ↔ c ∈ codes ∧ name? c = some x) := by
  intro codes outcome
  have constructed : Constructed service codes outcome :=
    constructed_ofCodes service a.pairwise_errorCodes
  generalize outcome = result at constructed
  cases result with
  | ok n =>
    obtain ⟨separable, made⟩ := constructed
    obtain ⟨hasWord, none_offends⟩ := separable_iff.1 separable
    refine ⟨by simp [separable], fun m eq => ?_, fun c => ?_, fun x l => ?_⟩
    · obtain rfl := Except.ok.inj eq
      exact made
    · simp only [reduceCtorEq, false_iff]
      exact fun least => least.1.2 (hasWord c least.1.1)
    · simp only [reduceCtorEq, false_iff]
      exact fun h => none_offends x h.2.1.1
  | error e =>
    cases e with
    | unnamed c =>
      have least : Text.Least (fun c => c ∈ codes ∧ ¬ HasWord c) c := constructed
      have not_separable : ¬ Separable codes := fun h => least.1.2 (h.hasWord c least.1.1)
      refine ⟨by simp [not_separable], by simp, fun d => ⟨?_, ?_⟩, fun x l => ?_⟩
      · intro eq
        obtain rfl := NamespaceError.unnamed.inj (Except.error.inj eq)
        exact least
      · exact fun least' => by rw [least.unique least']
      · simp only [Except.error.injEq, reduceCtorEq, false_iff]
        exact fun h => least.1.2 (h.1 c least.1.1)
    | collision x l =>
      obtain ⟨hasWord, least, ascending, mem_iff⟩ := constructed
      have not_separable : ¬ Separable codes := fun h => (separable_iff.1 h).2 x least.1
      refine ⟨by simp [not_separable], by simp, fun c => ?_, fun y m => ⟨?_, ?_⟩⟩
      · simp only [Except.error.injEq, reduceCtorEq, false_iff]
        exact fun h => h.1.2 (hasWord c h.1.1)
      · intro eq
        obtain ⟨rfl, rfl⟩ := NamespaceError.collision.inj (Except.error.inj eq)
        exact ⟨hasWord, least, ascending, mem_iff⟩
      · rintro ⟨-, least', ascending', mem_iff'⟩
        obtain rfl := least.unique least'
        rw [ascending.eq_of_mem_iff ascending' fun c => by rw [mem_iff, mem_iff']]

/-! ## What a namespace is known by -/

/-- The codes that lead to a name are all the codes. -/
theorem keys_names_of_ofCodes (ascending : codes.Pairwise (· < ·))
    (h : ofCodes service codes = .ok n) : n.names.keys = codes := by
  obtain ⟨separable, holds⟩ := holds_of_ofCodes ascending h
  refine Text.Ascending.eq_of_mem_iff (Text.ascending_iff.2 n.names.pairwise_keys)
    (Text.ascending_iff.2 ascending) fun c => ?_
  rw [Members.mem_keys_iff]
  constructor
  · rintro ⟨x, hx⟩
    exact ((holds.names c x).1 hx).1
  · intro hc
    obtain ⟨x, hx⟩ := exists_name_iff.2 (separable.hasWord c hc)
    exact ⟨x, (holds.names c x).2 ⟨hc, hx⟩⟩

theorem service_of_ofCodes (ascending : codes.Pairwise (· < ·))
    (h : ofCodes service codes = .ok n) : n.service = service :=
  (holds_of_ofCodes ascending h).2.owner

/-- For APIs that declare the same codes a service has the same namespace, or it has none for the same
reason. Namespaces are equal exactly if they are of the same service and of the same codes. -/
theorem ofApi_determined_by_codes :
    (∀ service a b, a.errorCodes = b.errorCodes → ofApi service a = ofApi service b) ∧
    ∀ s t a b m n, ofApi s a = .ok m → ofApi t b = .ok n →
      (m = n ↔ s = t ∧ a.errorCodes = b.errorCodes) := by
  have same_outcome (service : String) {a b : Api} (codes : a.errorCodes = b.errorCodes) :
      ofApi service a = ofApi service b := by
    rw [ofApi, codes, ofApi]
  refine ⟨fun service a b => same_outcome service, fun s t a b m n hm hn => ⟨?_, ?_⟩⟩
  · rintro rfl
    have owner : s = t :=
      (service_of_ofCodes a.pairwise_errorCodes hm).symm.trans
        (service_of_ofCodes b.pairwise_errorCodes hn)
    have codes : a.errorCodes = b.errorCodes :=
      (keys_names_of_ofCodes a.pairwise_errorCodes hm).symm.trans
        (keys_names_of_ofCodes b.pairwise_errorCodes hn)
    exact ⟨owner, codes⟩
  · rintro ⟨rfl, codes⟩
    rw [same_outcome s codes, hn] at hm
    exact (Except.ok.inj hm).symm

/-- A shape that is marked and a shape that an operation refers to declare the same code. The code `foo`
has a class with the same name, but in another namespace. -/
theorem ofApi_determined_by_codes_foo :
    let marked (code : String) : Api :=
      ⟨.ofList [("shapes", .ofMembers [(code, .ofMembers [("exception", .bool true)])])], 0⟩
    let referred : Api :=
      ⟨.ofList [("operations", .ofMembers [("Op", .ofMembers
        [("errors", .array [.ofMembers [("shape", .string "Foo")]])])])], 1⟩
    let n (code : String) : ErrorNamespace :=
      { service := "S", names := .ofList [(code, "Foo")],
        declared := .ofList [("Foo", .derived "S" "Foo" code true)] }
    (marked "Foo").errorCodes = referred.errorCodes ∧ ofApi "S" (marked "Foo") = .ok (n "Foo") ∧
      ofApi "S" referred = .ok (n "Foo") ∧ ofApi "S" (marked "foo") = .ok (n "foo") ∧
      n "Foo" ≠ n "foo" := by
  intro marked referred n
  have codes : (marked "Foo").errorCodes = referred.errorCodes := by decide +kernel
  have made : ofApi "S" (marked "Foo") = .ok (n "Foo") := by decide +kernel
  have other : ofApi "S" (marked "foo") = .ok (n "foo") := by decide +kernel
  obtain ⟨same, equal_iff⟩ := ofApi_determined_by_codes
  have differ : (marked "Foo").errorCodes ≠ (marked "foo").errorCodes := by decide +kernel
  refine ⟨codes, made, (same "S" _ _ codes).symm.trans made, other, fun eq => ?_⟩
  exact differ ((equal_iff "S" "S" _ _ _ _ made other).1 eq).2

end ApiClients.ErrorNamespace
