import TableMapping.Check

/-!
# First items

The first item of a list that fits, and the error of the first item that is refused. Steps for the
items of a list stop with this error, and a search for a fault finds it.
-/

namespace TableMapping

/-! ## Items that fit -/

/-- The item is the first one of a list that fits. -/
def IsFirst {α : Type} (fits : α → Prop) (items : List α) (item : α) : Prop :=
  fits item ∧ ∃ before after, items = before ++ item :: after ∧ ∀ earlier ∈ before, ¬fits earlier

section First

variable {α : Type} {fits : α → Prop} {items : List α} {check : α → Bool}

theorem find?_eq_some_iff_isFirst (checks : ∀ item, check item = true ↔ fits item) {item : α} :
    items.find? check = some item ↔ IsFirst fits items item := by
  simp [List.find?_eq_some_iff_append, IsFirst, ← checks]

theorem exists_isFirst (checks : ∀ item, check item = true ↔ fits item) :
    (∃ item, IsFirst fits items item) ↔ ∃ item ∈ items, fits item := by
  simp only [← find?_eq_some_iff_isFirst checks, ← Option.isSome_iff_exists, List.find?_isSome,
    checks]

theorem isFirst_cons {first item : α} :
    IsFirst fits (first :: items) item ↔
      fits first ∧ first = item ∨ ¬fits first ∧ IsFirst fits items item := by
  constructor
  · rintro ⟨fitting, before, after, split, unfit⟩
    cases before with
    | nil =>
        obtain ⟨rfl, rfl⟩ := List.cons.inj split
        exact .inl ⟨fitting, rfl⟩
    | cons other before =>
        obtain ⟨rfl, rfl⟩ := List.cons.inj split
        obtain ⟨first_unfit, unfit⟩ := List.forall_mem_cons.mp unfit
        exact .inr ⟨first_unfit, fitting, before, after, rfl, unfit⟩
  · rintro (⟨fitting, rfl⟩ | ⟨first_unfit, fitting, before, after, rfl, unfit⟩)
    · exact ⟨fitting, [], items, rfl, List.forall_mem_nil _⟩
    · exact ⟨fitting, first :: before, after, rfl, List.forall_mem_cons.mpr ⟨first_unfit, unfit⟩⟩

end First

/-! ## Items that are refused -/

/-- The error is that of the first item that is refused. -/
def FirstRefused {α ε : Type} (refuses : α → ε → Prop) (items : List α) (error : ε) : Prop :=
  ∃ item, IsFirst (fun other => ∃ reason, refuses other reason) items item ∧ refuses item error

/-- No item is refused. -/
def NoneRefused {α ε : Type} (refuses : α → ε → Prop) (items : List α) : Prop :=
  ∀ item ∈ items, ∀ reason, ¬refuses item reason

section Refused

variable {α β ε : Type} {refuses : α → ε → Prop} {items : List α} {error : ε}

theorem firstRefused_nil : ¬FirstRefused refuses [] error := by
  rintro ⟨item, ⟨-, before, after, split, -⟩, -⟩
  cases before <;> cases split

theorem firstRefused_cons {first : α} :
    FirstRefused refuses (first :: items) error ↔
      refuses first error ∨
        (∀ reason, ¬refuses first reason) ∧ FirstRefused refuses items error := by
  simp only [FirstRefused, isFirst_cons, not_exists]
  constructor
  · rintro ⟨item, ⟨-, rfl⟩ | ⟨accepted, later⟩, refused⟩
    · exact .inl refused
    · exact .inr ⟨accepted, item, later, refused⟩
  · rintro (refused | ⟨accepted, item, later, refused⟩)
    · exact ⟨first, .inl ⟨⟨error, refused⟩, rfl⟩, refused⟩
    · exact ⟨item, .inr ⟨accepted, later⟩, refused⟩

theorem not_firstRefused_iff :
    (∀ reason, ¬FirstRefused refuses items reason) ↔ NoneRefused refuses items := by
  induction items with
  | nil => exact iff_of_true (fun _ => firstRefused_nil) (List.forall_mem_nil _)
  | cons first items ih =>
      rw [NoneRefused, List.forall_mem_cons, ← NoneRefused, ← ih]
      simp only [firstRefused_cons, not_or, forall_and]
      refine and_congr_right fun accepted => ?_
      exact forall_congr' fun reason => not_congr (and_iff_right accepted)

theorem mapM_eq_error_iff_firstRefused {step : α → Except ε β}
    (reasons : ∀ item reason, step item = .error reason ↔ refuses item reason) :
    items.mapM step = .error error ↔ FirstRefused refuses items error := by
  induction items with
  | nil => exact iff_of_false (fun impossible => by cases impossible) firstRefused_nil
  | cons first items ih =>
      rw [List.mapM_cons, bind_eq_error, firstRefused_cons, ← ih, reasons]
      refine or_congr_right ?_
      simp only [bind_pure_eq_error, ← reasons]
      cases step first <;> simp

theorem firstRefused_of_mapM {ε' : Type} {step : α → Except ε' β} {refuses_result : β → ε → Prop}
    (alike : ∀ item result, step item = .ok result →
      ∀ reason, refuses_result result reason ↔ refuses item reason)
    {results : List β} (mapped : items.mapM step = .ok results) :
    FirstRefused refuses_result results error ↔ FirstRefused refuses items error := by
  induction items generalizing results with
  | nil =>
      obtain rfl : [] = results := by simpa using mapped
      exact iff_of_false firstRefused_nil firstRefused_nil
  | cons item items ih =>
      obtain ⟨result, rest, found, later, rfl⟩ := mapM_cons_eq_ok.mp mapped
      simp only [firstRefused_cons, ih later, alike item result found]

theorem findSome?_eq_some_iff_firstRefused {fault? : α → Option ε} :
    items.findSome? fault? = some error ↔
      FirstRefused (fun item reason => fault? item = some reason) items error := by
  induction items with
  | nil => exact iff_of_false (fun impossible => by cases impossible) firstRefused_nil
  | cons first items ih =>
      rw [List.findSome?_cons, firstRefused_cons, ← ih]
      cases fault? first <;> simp

end Refused

end TableMapping
