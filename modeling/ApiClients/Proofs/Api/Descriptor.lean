import ApiClients.Proofs.Api.ErrorCodes
import Mathlib.Data.List.Forall2

/-!
# What an entry describes

An entry of the section of operations describes one operation, under the key that it stands under
(`Describes`): where it is sent over HTTP, the shapes of its input and output, the errors that it lists, and
the kind of its authentication. What the entry leaves open or spells wrongly has a default or is left out.
`describes_iff` says that this is the operation that is extracted.
-/

namespace ApiClients

/-! ## HTTP bindings -/

namespace HttpMethod

/-- Two characters are the same, or the one is a small letter of ASCII and the other is its capital. -/
def SameLetter (c d : Char) : Prop :=
  c = d ∨ 'a' ≤ c ∧ c ≤ 'z' ∧ c.toNat = d.toNat + 32

/-- A text spells the name of a method, in small letters or in capitals. -/
def Spells (m : HttpMethod) (text : String) : Prop :=
  List.Forall₂ SameLetter text.toList m.name.toList

theorem toUpper_eq_iff {c d : Char} (capital : 'A' ≤ d ∧ d ≤ 'Z') :
    c.toUpper = d ↔ SameLetter c d := by
  have least : 65 ≤ d.toNat := capital.1
  have greatest : d.toNat ≤ 90 := capital.2
  have small : ('a' ≤ c ∧ c ≤ 'z') ↔ 97 ≤ c.toNat ∧ c.toNat ≤ 122 := Iff.rfl
  unfold SameLetter
  rw [← and_assoc, small, ← Char.toNat_inj, ← Char.toNat_inj]
  by_cases is_small : 97 ≤ c.toNat ∧ c.toNat ≤ 122
  · have shifted : c.toUpper.toNat = (c.toNat + 4294967264) % 4294967296 :=
      (congrArg Char.toNat (dif_pos is_small)).trans (UInt32.toNat_add ..)
    omega
  · have same : c.toUpper = c := dif_neg is_small
    rw [same]
    omega

/-- The names are written in capitals. -/
theorem capitals_name (m : HttpMethod) : ∀ d ∈ m.name.toList, 'A' ≤ d ∧ d ≤ 'Z' := by
  cases m <;> simp [name]

theorem map_toUpper_eq_iff {l k : List Char} (capitals : ∀ d ∈ k, 'A' ≤ d ∧ d ≤ 'Z') :
    l.map Char.toUpper = k ↔ List.Forall₂ SameLetter l k := by
  induction k generalizing l with
  | nil => simp
  | cons d k ih =>
    rw [List.forall_mem_cons] at capitals
    cases l with
    | nil => simp
    | cons c l =>
      rw [List.map_cons, List.cons.injEq, List.forall₂_cons, toUpper_eq_iff capitals.1,
        ih capitals.2]

@[simp] theorem ofName?_name (m : HttpMethod) : ofName? m.name = some m := by
  cases m <;> rfl

theorem ofName?_eq_some_iff {s : String} {m : HttpMethod} : ofName? s = some m ↔ s = m.name := by
  constructor
  · intro h
    have found : (m.name == s) = true := (List.find?_eq_some_iff_append.1 h).1
    exact (eq_of_beq found).symm
  · rintro rfl
    exact ofName?_name m

theorem ofNameIgnoringCase?_eq_some_iff {s : String} {m : HttpMethod} :
    ofNameIgnoringCase? s = some m ↔ m.Spells s := by
  rw [ofNameIgnoringCase?, ofName?_eq_some_iff, ← String.toList_inj, String.toList_map]
  exact map_toUpper_eq_iff m.capitals_name

end HttpMethod

/-- What is found, and the default where nothing is found. -/
def OrDefault {α : Type} (found : α → Prop) (default x : α) : Prop :=
  found x ∨ (∀ y, ¬ found y) ∧ x = default

theorem orDefault_iff {α : Type} {found : α → Prop} {o : Option α} {default x : α}
    (h : ∀ y, o = some y ↔ found y) : OrDefault found default x ↔ x = o.getD default := by
  unfold OrDefault
  simp only [← h]
  cases o <;> simp [eq_comm]

/-- The method that an object names, in a text under `method`; else it is `POST`. -/
def NamesMethod (t : Table Json) : HttpMethod → Prop :=
  OrDefault (fun m => ∃ text, t.get? "method" = some (.string text) ∧ m.Spells text) .post

/-- The template of a URI that an object has, as a text under `requestUri`; else it is a slash. -/
def NamesUri (t : Table Json) : String → Prop :=
  OrDefault (fun uri => t.get? "requestUri" = some (.string uri)) "/"

/-- The HTTP binding of an entry, which an object under `http` describes; else it is `POST /`. -/
def Binds (entry : Table Json) : HttpBinding → Prop :=
  OrDefault (fun b => ∃ t, entry.get? "http" = some (.object t) ∧ NamesMethod t b.method ∧
    NamesUri t b.uri) ⟨.post, "/"⟩

theorem namesMethod_iff {t : Table Json} {method : HttpMethod} :
    NamesMethod t method ↔ method = (HttpBinding.ofTable t).method :=
  orDefault_iff fun m => by
    simp [Option.bind_eq_some_iff, HttpMethod.ofNameIgnoringCase?_eq_some_iff]

theorem namesUri_iff {t : Table Json} {uri : String} :
    NamesUri t uri ↔ uri = (HttpBinding.ofTable t).uri :=
  orDefault_iff fun uri => by simp [Option.bind_eq_some_iff]

theorem binds_iff {entry : Table Json} {b : HttpBinding} : Binds entry b ↔
    b = (((entry.get? "http").bind Json.asObject?).map HttpBinding.ofTable).getD {} := by
  refine orDefault_iff fun b => ?_
  have parts (t : Table Json) :
      HttpBinding.ofTable t = b ↔ NamesMethod t b.method ∧ NamesUri t b.uri := by
    rw [namesMethod_iff, namesUri_iff, eq_comm]
    cases b
    exact HttpBinding.mk.injEq .. |>.to_iff
  simp [Option.bind_eq_some_iff, parts]

/-! ## Operations -/

namespace Api

variable {a : Api} {name : String} {entry : Table Json} {o : Operation}

/-- An entry describes an operation under a key. -/
structure Describes (a : Api) (name : String) (entry : Table Json) (o : Operation) : Prop where
  name : o.name = name
  http : Binds entry o.http
  input : ∀ shape, o.input = some shape ↔
    ∃ ref, entry.get? "input" = some ref ∧ IsReference ref shape
  output : ∀ shape, o.output = some shape ↔
    ∃ ref, entry.get? "output" = some ref ∧ IsReference ref shape
  errors : a.ListsErrors entry o.errors
  authType : ∀ kind, o.authType = some kind ↔ entry.get? "authtype" = some (.string kind)

theorem describes_ofTable (a : Api) (name : String) (entry : Table Json) :
    a.Describes name entry (.ofTable name a.codeOf entry) where
  name := rfl
  http := binds_iff.2 rfl
  input shape := by simp [Operation.ofTable, Option.bind_eq_some_iff, shapeName?_eq_some_iff]
  output shape := by simp [Operation.ofTable, Option.bind_eq_some_iff, shapeName?_eq_some_iff]
  errors := listsErrors_ofTable a name entry
  authType kind := by simp [Operation.ofTable, Option.bind_eq_some_iff]

/-- An entry describes one operation, the one that is extracted from it. -/
theorem describes_iff : a.Describes name entry o ↔ o = .ofTable name a.codeOf entry := by
  constructor
  · intro h
    have h' := describes_ofTable a name entry
    have input : o.input = (Operation.ofTable name a.codeOf entry).input :=
      Option.ext fun shape => (h.input shape).trans (h'.input shape).symm
    have output : o.output = (Operation.ofTable name a.codeOf entry).output :=
      Option.ext fun shape => (h.output shape).trans (h'.output shape).symm
    have authType : o.authType = (Operation.ofTable name a.codeOf entry).authType :=
      Option.ext fun kind => (h.authType kind).trans (h'.authType kind).symm
    have http : o.http = (Operation.ofTable name a.codeOf entry).http := binds_iff.1 h.http
    have errors : o.errors = (Operation.ofTable name a.codeOf entry).errors := h.errors.unique h'.errors
    obtain ⟨name', http', input', output', errors', authType'⟩ := o
    obtain rfl := h.name
    dsimp only at http input output errors authType
    rw [http, input, output, errors, authType]
    rfl
  · rintro rfl
    exact describes_ofTable a name entry

end Api

end ApiClients
