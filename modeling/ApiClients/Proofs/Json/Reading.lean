import ApiClients.Json.Reader
import ApiClients.Proofs.Json.Printing

/-!
# Reading printed text

The reader undoes both printers. A value whose numbers are integers, and whose nesting stays within
the limit, is read back from its compact text and from its pretty text (`read?_compact`,
`read?_pretty`), since both spell the tokens of the value and the reader finds the value in its tokens
(`Progress.run?_tokens`). White space behind the text does no harm.

Conversely no value that is read nests deeper than the limit (`depth_le_of_read?`): what is read so
far, together with the containers that are open around it, always fits (`Progress.Fits`).
-/

namespace ApiClients.Json

theorem intercalate_cons {α : Type} (sep l : List α) (ls : List (List α)) :
    sep.intercalate (l :: ls) = l ++ ls.flatMap (sep ++ ·) := by
  induction ls generalizing l with
  | nil => simp
  | cons l' ls ih => simp only [List.intercalate_cons_cons, ih, List.flatMap_cons, List.append_assoc]

namespace Progress

variable {limit : Nat} {p q : Progress} {t : Token} {ts : List Token} {stack : List Frame}

/-! ## The value in its tokens -/

@[simp] theorem run?_nil : run? limit p [] = some p := rfl

theorem run?_cons (h : step? limit p t = some q) : run? limit p (t :: ts) = run? limit q ts := by
  unfold run?
  rw [List.foldlM_cons, h]
  rfl

/-- The first item of an array is read like any other, as it does not begin with a bracket that
closes the array. -/
theorem run?_arrayOpened (x : Json) : run? limit (.arrayOpened stack) (x.tokens ++ ts) =
    run? limit (.value (.array [] :: stack)) (x.tokens ++ ts) := by
  cases x <;> rfl

/-- `x` is read from its tokens wherever there is room for it. -/
def Reads (limit : Nat) (x : Json) : Prop :=
  ∀ (stack : List Frame) (ts : List Token), stack.length + x.depth ≤ limit →
    run? limit (.value stack) (x.tokens ++ ts) = run? limit (.complete x stack) ts

/-- The rest of an array, after one of its items. -/
theorem run?_items {items : List Json} (reads : ∀ x ∈ items, Reads limit x)
    (room : ∀ x ∈ items, stack.length + 1 + x.depth ≤ limit) (before : List Json) (y : Json) :
    run? limit (.complete y (.array before :: stack))
      ((items.map tokens).flatMap ([.comma] ++ ·) ++ .closeArray :: ts) =
      run? limit (.complete (.array (before.reverse ++ y :: items)) stack) ts := by
  induction items generalizing before y with
  | nil =>
    have : (y :: before).reverse = before.reverse ++ [y] := List.reverse_cons
    exact run?_cons (by rw [step?, this])
  | cons x items ih =>
    obtain ⟨reads, reads'⟩ := List.forall_mem_cons.1 reads
    obtain ⟨fits, fits'⟩ := List.forall_mem_cons.1 room
    have item := reads (.array (y :: before) :: stack)
      ((items.map tokens).flatMap ([.comma] ++ ·) ++ .closeArray :: ts) fits
    have others := ih reads' fits' (y :: before) x
    rw [List.reverse_cons, List.append_assoc, List.singleton_append] at others
    rw [← others, ← item, List.map_cons, List.flatMap_cons, List.append_assoc, List.append_assoc]
    exact run?_cons rfl

/-- The rest of an object, after one of its members. -/
theorem run?_members {members : List (String × Json)}
    (reads : ∀ e ∈ members, Reads limit e.2)
    (room : ∀ e ∈ members, stack.length + 1 + e.2.depth ≤ limit)
    (before : List (String × Json)) (k : String) (y : Json) :
    run? limit (.complete y (.object before k :: stack))
      ((members.map fun e => .string e.1 :: .colon :: e.2.tokens).flatMap ([.comma] ++ ·) ++
        .closeObject :: ts) =
      run? limit (.complete (.ofMembers (before.reverse ++ (k, y) :: members)) stack) ts := by
  induction members generalizing before k y with
  | nil =>
    have : ((k, y) :: before).reverse = before.reverse ++ [(k, y)] := List.reverse_cons
    exact run?_cons (by rw [step?, this])
  | cons e members ih =>
    obtain ⟨reads, reads'⟩ := List.forall_mem_cons.1 reads
    obtain ⟨fits, fits'⟩ := List.forall_mem_cons.1 room
    have value := reads (.object ((k, y) :: before) e.1 :: stack)
      ((members.map fun e => .string e.1 :: .colon :: e.2.tokens).flatMap ([.comma] ++ ·) ++
        .closeObject :: ts) fits
    have others := ih reads' fits' ((k, y) :: before) e.1 e.2
    rw [List.reverse_cons, List.append_assoc, List.singleton_append] at others
    rw [← others, ← value, List.map_cons, List.flatMap_cons, List.append_assoc, List.append_assoc]
    -- A comma, the key and a colon lead to the value of the member.
    refine (run?_cons rfl).trans ((run?_cons rfl).trans ?_)
    exact run?_cons rfl

/-- A value is read from its tokens. -/
theorem run?_tokens (x : Json) : Reads limit x := by
  induction x using parts_induction with
  | null => exact fun _ _ _ => run?_cons rfl
  | bool b => exact fun _ _ _ => run?_cons rfl
  | number n => exact fun _ _ _ => run?_cons rfl
  | string s => exact fun _ _ _ => run?_cons rfl
  | array items ih =>
    intro stack ts h
    have opens : step? limit (.value stack) .openArray = some (.arrayOpened stack) := by
      rw [depth] at h
      exact if_pos (by omega)
    have room : ∀ x ∈ items, stack.length + 1 + x.depth ≤ limit := by
      intro x hx
      have : x.depth ≤ itemsDepth items := itemsDepth_le_iff.1 (Nat.le_refl _) x hx
      rw [depth] at h
      omega
    rw [tokens, itemTokens_eq, List.cons_append, run?_cons opens]
    cases items with
    | nil => exact run?_cons rfl
    | cons x items =>
      obtain ⟨reads, reads'⟩ := List.forall_mem_cons.1 ih
      obtain ⟨fits, fits'⟩ := List.forall_mem_cons.1 room
      rw [List.map_cons, intercalate_cons, List.append_assoc, List.append_assoc, run?_arrayOpened,
        reads (.array [] :: stack) _ fits, List.singleton_append]
      exact run?_items reads' fits' [] x
  | object t ih =>
    intro stack ts h
    have opens : step? limit (.value stack) .openObject = some (.objectOpened stack) := by
      rw [depth] at h
      exact if_pos (by omega)
    have room : ∀ e ∈ t.toList, stack.length + 1 + e.2.depth ≤ limit := by
      intro e he
      have : e.2.depth ≤ membersDepth t := membersDepth_le_iff.1 (Nat.le_refl _) e he
      rw [depth] at h
      omega
    have whole : ofMembers t.toList = object t := congrArg object (Members.ofList_toList t)
    rw [tokens, memberTokens_eq, List.cons_append, run?_cons opens, ← whole]
    generalize t.toList = members at ih room
    cases members with
    | nil => exact run?_cons rfl
    | cons e members =>
      obtain ⟨reads, reads'⟩ := List.forall_mem_cons.1 ih
      obtain ⟨fits, fits'⟩ := List.forall_mem_cons.1 room
      have value := reads (.object [] e.1 :: stack)
        ((members.map fun e => .string e.1 :: .colon :: e.2.tokens).flatMap ([.comma] ++ ·) ++
          .closeObject :: ts) fits
      rw [List.map_cons, intercalate_cons, List.append_assoc, List.append_assoc,
        List.singleton_append]
      refine (run?_cons rfl).trans ((run?_cons rfl).trans ?_)
      exact value.trans (run?_members reads' fits' [] e.1 e.2)

end Progress

/-! ## Room for what is read -/

/-- The values in an open container. -/
def Frame.parts : Frame → List Json
  | .array before => before
  | .object before _ => before.map Prod.snd

/-- The open containers are within the limit, and so are their parts where they stand. -/
def Frame.Fit (limit : Nat) : List Frame → Prop
  | [] => True
  | f :: stack =>
    stack.length + 1 ≤ limit ∧ (∀ x ∈ f.parts, stack.length + 1 + x.depth ≤ limit) ∧
      Frame.Fit limit stack

theorem room_array {n limit : Nat} {items : List Json} (below : n + 1 ≤ limit)
    (h : ∀ x ∈ items, n + 1 + x.depth ≤ limit) : n + (array items).depth ≤ limit := by
  obtain ⟨room, rfl⟩ := Nat.exists_eq_add_of_le below
  have : (array items).depth ≤ room + 1 := depth_array_le_iff.2 fun x hx => by
    have := h x hx
    omega
  omega

theorem room_ofMembers {n limit : Nat} {members : List (String × Json)} (below : n + 1 ≤ limit)
    (h : ∀ x ∈ members.map Prod.snd, n + 1 + x.depth ≤ limit) :
    n + (ofMembers members).depth ≤ limit := by
  obtain ⟨room, rfl⟩ := Nat.exists_eq_add_of_le below
  have : (ofMembers members).depth ≤ room + 1 := depth_ofMembers_le fun e he => by
    have := h e.2 (List.mem_map.2 ⟨e, he, rfl⟩)
    omega
  omega

namespace Progress

variable {limit : Nat} {p q : Progress} {t : Token} {ts : List Token} {stack : List Frame}

/-- What has been read is within the limit. -/
def Fits (limit : Nat) : Progress → Prop
  | value stack => Frame.Fit limit stack
  | arrayOpened stack => Frame.Fit limit (.array [] :: stack)
  | objectOpened stack => Frame.Fit limit (.object [] "" :: stack)
  | key before stack => Frame.Fit limit (.object before "" :: stack)
  | colon before k stack => Frame.Fit limit (.object before k :: stack)
  | complete v stack => stack.length + v.depth ≤ limit ∧ Frame.Fit limit stack

theorem fits_start? (fit : Frame.Fit limit stack) (h : start? limit stack t = some q) :
    q.Fits limit := by
  have room : stack.length ≤ limit := by
    cases stack with
    | nil => exact Nat.zero_le _
    | cons f stack => exact fit.1
  cases t with
  | openArray =>
    obtain ⟨below, eq⟩ := Option.ite_none_right_eq_some.1 h
    obtain rfl := Option.some.inj eq
    exact ⟨below, nofun, fit⟩
  | openObject =>
    obtain ⟨below, eq⟩ := Option.ite_none_right_eq_some.1 h
    obtain rfl := Option.some.inj eq
    exact ⟨below, nofun, fit⟩
  | null | bool | number | string =>
    obtain rfl := Option.some.inj h
    exact ⟨room, fit⟩
  | _ => exact nomatch h

theorem fits_step? (fits : p.Fits limit) (h : step? limit p t = some q) : q.Fits limit := by
  unfold step? at h
  split at h
  -- A value begins.
  case h_1 => exact fits_start? fits h
  case h_3 => exact fits_start? fits h
  case h_12 => exact nomatch h
  all_goals obtain rfl := Option.some.inj h
  -- A key or a colon puts no value into the object.
  case h_5 | h_6 | h_7 => exact fits
  -- An empty container is complete.
  case h_2 => exact ⟨room_array fits.1 nofun, fits.2.2⟩
  case h_4 => exact ⟨room_ofMembers fits.1 nofun, fits.2.2⟩
  -- The value that is complete becomes a part.
  all_goals obtain ⟨room, below, parts, fit⟩ := fits
  case h_8 | h_10 => exact ⟨below, List.forall_mem_cons.2 ⟨room, parts⟩, fit⟩
  case h_9 v before stack =>
    refine ⟨room_array below fun x hx => ?_, fit⟩
    rcases List.mem_cons.1 (List.mem_reverse.1 hx) with rfl | hx
    · exact room
    · exact parts x hx
  case h_11 v before k stack =>
    refine ⟨room_ofMembers below fun x hx => ?_, fit⟩
    rw [List.map_reverse, List.mem_reverse, List.map_cons] at hx
    rcases List.mem_cons.1 hx with rfl | hx
    · exact room
    · exact parts x hx

theorem fits_run? (fits : p.Fits limit) (h : run? limit p ts = some q) : q.Fits limit := by
  induction ts generalizing p with
  | nil =>
    obtain rfl := Option.some.inj h
    exact fits
  | cons t ts ih =>
    unfold run? at h
    rw [List.foldlM_cons] at h
    obtain ⟨next, step, rest⟩ := Option.bind_eq_some_iff.1 h
    exact ih (fits_step? fits step) rest

end Progress

variable {limit : Nat} {text : String} {x : Json}

/-- No value that is read is too deep. -/
theorem depth_le_of_readWithin? (h : readWithin? limit text = some x) : x.depth ≤ limit := by
  obtain ⟨ts, -, h⟩ := Option.bind_eq_some_iff.1 h
  obtain ⟨p, run, result⟩ := Option.bind_eq_some_iff.1 h
  have fits : p.Fits limit := Progress.fits_run? (p := .value []) trivial run
  unfold Progress.result? at result
  split at result
  · obtain rfl := Option.some.inj result
    simpa using fits.1
  · exact nomatch result

theorem depth_le_of_read? (h : read? text = some x) : x.depth ≤ maxDepth :=
  depth_le_of_readWithin? h

/-! ## Printed text -/

/-- Text that spells the tokens of a value is read as this value. -/
theorem readWithin?_of_spells (h : Token.Spells text.toList x.tokens) (hx : x.depth ≤ limit) :
    readWithin? limit text = some x := by
  have run : Progress.run? limit (.value []) x.tokens = some (.complete x []) := by
    have := Progress.run?_tokens x [] [] (by simpa using hx)
    rwa [List.append_nil] at this
  unfold readWithin? ofTokens?
  rw [Token.ofText?_of_spells h]
  simp [run, Progress.result?]

theorem read?_compact (integral : x.isIntegral = true) (hx : x.depth ≤ maxDepth) :
    read? x.compact = some x :=
  readWithin?_of_spells (spells_compact x integral) hx

theorem read?_pretty (integral : x.isIntegral = true) (hx : x.depth ≤ maxDepth) :
    read? x.pretty = some x :=
  readWithin?_of_spells (spells_prettyAt x integral 0) hx

/-- A line break behind the text changes nothing. -/
theorem readWithin?_pretty_line (integral : x.isIntegral = true) (hx : x.depth ≤ limit) :
    readWithin? limit (x.pretty ++ "\n") = some x := by
  have text := spells_prettyAt x integral 0
  have ending : Token.Scans .blank ['\n'] [] .blank := Token.scans_blanks (List.all_eq_true.1 rfl)
  have spelled := text.followed (Token.start?_of_isBlank rfl).2 ending
  rw [List.append_nil] at spelled
  refine readWithin?_of_spells ?_ hx
  rw [String.toList_append]
  exact spelled.spells

end ApiClients.Json
