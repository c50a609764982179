/-!
# Checks

Steps of a computation that stops at its first fault, and what it means that a computation made of
steps goes through.
-/

namespace TableMapping

/-- Goes on if the condition holds, and otherwise stops with the fault. -/
def ensure {ε : Type} (condition : Prop) [Decidable condition] (fault : ε) : Except ε Unit :=
  if condition then .ok () else .error fault

/-- Goes on with the value if there is one, and otherwise stops with the fault. -/
def expect {α ε : Type} (fault : ε) : Option α → Except ε α
  | some value => .ok value
  | none => .error fault

@[simp]
theorem ensure_eq_ok {ε : Type} {condition : Prop} [Decidable condition] {fault : ε} {done : Unit} :
    ensure condition fault = .ok done ↔ condition := by
  unfold ensure
  split <;> simp_all

@[simp]
theorem ensure_eq_error {ε : Type} {condition : Prop} [Decidable condition] {fault other : ε} :
    ensure condition fault = .error other ↔ ¬condition ∧ fault = other := by
  unfold ensure
  split <;> simp_all

@[simp]
theorem expect_eq_ok {α ε : Type} {fault : ε} {found : Option α} {value : α} :
    expect fault found = .ok value ↔ found = some value := by
  cases found <;> simp [expect]

@[simp]
theorem expect_eq_error {α ε : Type} {fault other : ε} {found : Option α} :
    expect fault found = .error other ↔ found = none ∧ fault = other := by
  cases found <;> simp [expect]

/-! ## Computations that go through -/

variable {α β ε : Type}

@[simp]
theorem bind_eq_ok {computation : Except ε α} {next : α → Except ε β} {result : β} :
    (computation >>= next) = .ok result ↔
      ∃ value, computation = .ok value ∧ next value = .ok result := by
  cases computation <;> simp [bind, Except.bind]

@[simp]
theorem pure_eq_ok {value result : α} :
    (pure value : Except ε α) = .ok result ↔ value = result := by
  simp [pure, Except.pure]

@[simp]
theorem map_eq_ok {computation : Except ε α} {change : α → β} {result : β} :
    computation.map change = .ok result ↔
      ∃ value, computation = .ok value ∧ change value = result := by
  cases computation <;> simp [Except.map]

@[simp]
theorem functor_map_eq_ok {computation : Except ε α} {change : α → β} {result : β} :
    (change <$> computation) = .ok result ↔
      ∃ value, computation = .ok value ∧ change value = result :=
  map_eq_ok

@[simp]
theorem mapError_eq_ok {ε' : Type} {computation : Except ε α} {change : ε → ε'} {result : α} :
    computation.mapError change = .ok result ↔ computation = .ok result := by
  cases computation with
  | error fault => exact ⟨nofun, nofun⟩
  | ok value =>
      have kept : (Except.ok value : Except ε α).mapError change = .ok value := rfl
      rw [kept, Except.ok.injEq, Except.ok.injEq]

theorem mapM_cons_eq_ok {step : α → Except ε β} {item : α} {items : List α} {results : List β} :
    (item :: items).mapM step = .ok results ↔
      ∃ result rest, step item = .ok result ∧ items.mapM step = .ok rest ∧
        result :: rest = results := by
  simp [List.mapM_cons]

theorem exists_of_mem_mapM {step : α → Except ε β} {items : List α} {results : List β}
    (mapped : items.mapM step = .ok results) {result : β} (member : result ∈ results) :
    ∃ item ∈ items, step item = .ok result := by
  induction items generalizing results with
  | nil =>
      obtain rfl : [] = results := by simpa using mapped
      cases member
  | cons item items ih =>
      obtain ⟨first, rest, found, later, rfl⟩ := mapM_cons_eq_ok.mp mapped
      rcases List.mem_cons.mp member with rfl | member
      · exact ⟨item, List.mem_cons_self, found⟩
      · obtain ⟨other, listed, step_eq⟩ := ih later member
        exact ⟨other, List.mem_cons_of_mem item listed, step_eq⟩

theorem exists_result_of_mapM {step : α → Except ε β} {items : List α} {results : List β}
    (mapped : items.mapM step = .ok results) {item : α} (member : item ∈ items) :
    ∃ result ∈ results, step item = .ok result := by
  induction items generalizing results with
  | nil => cases member
  | cons first items ih =>
      obtain ⟨result, rest, found, later, rfl⟩ := mapM_cons_eq_ok.mp mapped
      rcases List.mem_cons.mp member with rfl | member
      · exact ⟨result, List.mem_cons_self, found⟩
      · obtain ⟨other, listed, step_eq⟩ := ih later member
        exact ⟨other, List.mem_cons_of_mem result listed, step_eq⟩

theorem mapM_append_eq_ok {step : α → Except ε β} {before after : List α} {results : List β} :
    (before ++ after).mapM step = .ok results ↔
      ∃ first rest, before.mapM step = .ok first ∧ after.mapM step = .ok rest ∧
        first ++ rest = results := by
  simp [List.mapM_append]

theorem exists_mapM_eq_ok {step : α → Except ε β} {items : List α}
    (goes : ∀ item ∈ items, ∃ result, step item = .ok result) :
    ∃ results, items.mapM step = .ok results := by
  induction items with
  | nil => exact ⟨[], rfl⟩
  | cons item items ih =>
      obtain ⟨result, found⟩ := goes item List.mem_cons_self
      obtain ⟨results, later⟩ := ih fun other listed =>
        goes other (List.mem_cons_of_mem item listed)
      exact ⟨result :: results, mapM_cons_eq_ok.mpr ⟨result, results, found, later, rfl⟩⟩

theorem exists_mapM_eq_ok_iff {step : α → Except ε β} {items : List α} :
    (∃ results, items.mapM step = .ok results) ↔
      ∀ item ∈ items, ∃ result, step item = .ok result := by
  constructor
  · rintro ⟨results, mapped⟩ item member
    obtain ⟨result, -, found⟩ := exists_result_of_mapM mapped member
    exact ⟨result, found⟩
  · exact exists_mapM_eq_ok

theorem mapM_congr_of_mem {step other : α → Except ε β} {items : List α}
    (same : ∀ item ∈ items, step item = other item) : items.mapM step = items.mapM other := by
  induction items with
  | nil => rfl
  | cons item items ih =>
      have later := ih fun next member => same next (List.mem_cons_of_mem item member)
      rw [List.mapM_cons, List.mapM_cons, same item List.mem_cons_self, later]

theorem bind_congr_of_ok {computation : Except ε α} {next other : α → Except ε β}
    (same : ∀ value, computation = .ok value → next value = other value) :
    computation >>= next = computation >>= other := by
  cases computation with
  | error fault => rfl
  | ok value => exact same value rfl

theorem foldlM_congr_of_mem {step other : β → α → Except ε β} {items : List α}
    (same : ∀ item ∈ items, ∀ state, step state item = other state item) (start : β) :
    items.foldlM step start = items.foldlM other start := by
  induction items generalizing start with
  | nil => rfl
  | cons item items ih =>
      rw [List.foldlM_cons, List.foldlM_cons, same item List.mem_cons_self]
      exact bind_congr (ih fun next member => same next (List.mem_cons_of_mem item member))

theorem mapM_eq_ok_of_forall {step : α → Except ε β} {result : α → β} {items : List α}
    (goes : ∀ item ∈ items, step item = .ok (result item)) :
    items.mapM step = .ok (items.map result) := by
  induction items with
  | nil => rfl
  | cons item items ih =>
      have later := ih fun other member => goes other (List.mem_cons_of_mem item member)
      exact mapM_cons_eq_ok.mpr ⟨_, _, goes item List.mem_cons_self, later, rfl⟩

theorem map_eq_of_mapM {γ : Type} {step : α → Except ε β} {of : α → γ} {kept : β → γ}
    (keeps : ∀ item result, step item = .ok result → kept result = of item) {items : List α}
    {results : List β} (mapped : items.mapM step = .ok results) :
    results.map kept = items.map of := by
  induction items generalizing results with
  | nil =>
      obtain rfl : [] = results := by simpa using mapped
      rfl
  | cons item items ih =>
      obtain ⟨first, rest, found, later, rfl⟩ := mapM_cons_eq_ok.mp mapped
      rw [List.map_cons, List.map_cons, keeps item first found, ih later]

theorem forM_eq_ok {step : α → Except ε Unit} {items : List α} :
    items.forM step = .ok () ↔ ∀ item ∈ items, step item = .ok () := by
  induction items with
  | nil => simp
  | cons item items ih =>
      rw [List.forM_eq_forM] at ih ⊢
      rw [List.forM_cons, bind_eq_ok, List.forall_mem_cons, ih]
      exact ⟨fun ⟨_, first, later⟩ => ⟨first, later⟩, fun ⟨first, later⟩ => ⟨(), first, later⟩⟩

/-- What every step preserves holds behind steps that all go through. -/
theorem foldlM_induction {motive : β → Prop} {step : β → α → Except ε β} {items : List α}
    (preserves : ∀ before item after, motive before → item ∈ items →
      step before item = .ok after → motive after)
    {start result : β} (holds : motive start) (folded : items.foldlM step start = .ok result) :
    motive result := by
  induction items generalizing start with
  | nil =>
      obtain rfl : start = result := by simpa using folded
      exact holds
  | cons item rest ih =>
      obtain ⟨next, stepped, folded⟩ : ∃ next, step start item = .ok next ∧
          rest.foldlM step next = .ok result := by
        simpa [List.foldlM_cons] using folded
      exact ih (fun before other after held member => preserves before other after held
        (List.mem_cons_of_mem item member)) (preserves start item next holds List.mem_cons_self
        stepped) folded

/-! ## Computations that stop -/

theorem bind_eq_error {computation : Except ε α} {next : α → Except ε β} {fault : ε} :
    (computation >>= next) = .error fault ↔
      computation = .error fault ∨
        ∃ value, computation = .ok value ∧ next value = .error fault := by
  cases computation <;> simp [bind, Except.bind]

theorem bind_pure_eq_error {computation : Except ε α} {change : α → β} {fault : ε} :
    (computation >>= fun value => pure (change value)) = .error fault ↔
      computation = .error fault := by
  cases computation <;> simp [bind, Except.bind, pure, Except.pure]

theorem mapError_eq_error {ε' : Type} {computation : Except ε α} {change : ε → ε'} {fault : ε'} :
    computation.mapError change = .error fault ↔
      ∃ cause, computation = .error cause ∧ change cause = fault := by
  cases computation with
  | error cause =>
      have changed : (Except.error cause : Except ε α).mapError change = .error (change cause) :=
        rfl
      simp [changed]
  | ok value => exact ⟨nofun, nofun⟩

theorem exists_of_mapM_eq_error {step : α → Except ε β} {items : List α} {fault : ε}
    (stops : items.mapM step = .error fault) : ∃ item ∈ items, step item = .error fault := by
  induction items with
  | nil => cases stops
  | cons item items ih =>
      rw [List.mapM_cons] at stops
      rcases bind_eq_error.mp stops with own | ⟨result, -, rest⟩
      · exact ⟨item, List.mem_cons_self, own⟩
      · obtain ⟨other, member, found⟩ := ih (bind_pure_eq_error.mp rest)
        exact ⟨other, List.mem_cons_of_mem item member, found⟩

/-- Steps from one state to the next stop at the first item whose step does not go through in the
state behind the items before it. -/
theorem foldlM_eq_error_iff {step : β → α → Except ε β} {items : List α} {start : β} {fault : ε} :
    items.foldlM step start = .error fault ↔
      ∃ before item after state, items = before ++ item :: after ∧
        before.foldlM step start = .ok state ∧ step state item = .error fault := by
  constructor
  · intro stops
    induction items generalizing start with
    | nil => cases stops
    | cons first items ih =>
        rw [List.foldlM_cons] at stops
        rcases bind_eq_error.mp stops with own | ⟨next, went, later⟩
        · exact ⟨[], first, items, start, rfl, rfl, own⟩
        · obtain ⟨before, item, after, state, rfl, folded, found⟩ := ih later
          refine ⟨first :: before, item, after, state, rfl, ?_, found⟩
          rw [List.foldlM_cons, went]
          exact folded
  · rintro ⟨before, item, after, state, rfl, folded, found⟩
    rw [List.foldlM_append, folded]
    exact bind_eq_error.mpr (.inr ⟨state, rfl, by rw [List.foldlM_cons, found]; rfl⟩)

theorem exists_of_foldlM_eq_error {step : β → α → Except ε β} {items : List α} {start : β}
    {fault : ε} (stops : items.foldlM step start = .error fault) :
    ∃ state, ∃ item ∈ items, step state item = .error fault := by
  obtain ⟨before, item, after, state, rfl, -, found⟩ := foldlM_eq_error_iff.mp stops
  exact ⟨state, item, List.mem_append_right _ List.mem_cons_self, found⟩

end TableMapping
