import Mathlib.Data.List.Forall2
import TableMapping.Check

/-!
# Agreement of computations

Two computations agree if both stop with the same fault or both go through with related results.
Steps that agree on related results make computations that agree.
-/

namespace TableMapping

/-- Both computations stop with the same fault, or both go through and their results are related. -/
inductive Agree {ε α β : Type} (related : α → β → Prop) : Except ε α → Except ε β → Prop
  | error (fault : ε) : Agree related (.error fault) (.error fault)
  | ok {result : α} {other : β} (results : related result other) :
      Agree related (.ok result) (.ok other)

namespace Agree

variable {ε α β γ δ : Type} {related : α → β → Prop} {outcome : γ → δ → Prop}

theorem bind {computation : Except ε α} {other : Except ε β}
    (agree : Agree related computation other) {next : α → Except ε γ} {other_next : β → Except ε δ}
    (steps : ∀ result other, related result other →
      Agree outcome (next result) (other_next other)) :
    Agree outcome (computation >>= next) (other >>= other_next) := by
  cases agree with
  | error fault => exact .error fault
  | ok results => exact steps _ _ results

theorem bind_self {computation : Except ε α} {next : α → Except ε γ} {other_next : α → Except ε δ}
    (steps : ∀ result, Agree outcome (next result) (other_next result)) :
    Agree outcome (computation >>= next) (computation >>= other_next) := by
  cases computation with
  | error fault => exact .error fault
  | ok result => exact steps result

theorem mapError {ε' : Type} {computation : Except ε α} {other : Except ε β}
    (agree : Agree related computation other) (change : ε → ε') :
    Agree related (computation.mapError change) (other.mapError change) := by
  cases agree with
  | error fault => exact .error (change fault)
  | ok results => exact .ok results

theorem map_eq {computation : Except ε α} {other : Except ε β}
    (agree : Agree related computation other) {change : α → γ} {other_change : β → γ}
    (same : ∀ result other, related result other → change result = other_change other) :
    computation.map change = other.map other_change := by
  cases agree with
  | error fault => rfl
  | ok results => exact congrArg Except.ok (same _ _ results)

theorem mapM {items : List α} {others : List β} (alike : List.Forall₂ related items others)
    {step : α → Except ε γ} {other_step : β → Except ε δ}
    (steps : ∀ item other, related item other → Agree outcome (step item) (other_step other)) :
    Agree (List.Forall₂ outcome) (items.mapM step) (others.mapM other_step) := by
  induction alike with
  | nil => exact .ok .nil
  | cons first _ ih =>
      rw [List.mapM_cons, List.mapM_cons]
      refine (steps _ _ first).bind fun result other results => ?_
      exact ih.bind fun rest others rest_results => .ok (.cons results rest_results)

end Agree

theorem exists_mapM_forall₂ {ε α β : Type} {related : α → β → Prop} {step : α → Except ε β}
    {items : List α} (goes : ∀ item ∈ items, ∃ result, step item = .ok result ∧
      related item result) :
    ∃ results, items.mapM step = .ok results ∧ List.Forall₂ related items results := by
  induction items with
  | nil => exact ⟨[], rfl, .nil⟩
  | cons item items ih =>
      obtain ⟨result, found, own⟩ := goes item List.mem_cons_self
      obtain ⟨results, later, rest⟩ := ih fun other listed =>
        goes other (List.mem_cons_of_mem item listed)
      exact ⟨result :: results, mapM_cons_eq_ok.mpr ⟨result, results, found, later, rfl⟩,
        .cons own rest⟩

theorem forall₂_of_mapM {ε α β : Type} {related : α → β → Prop} {step : α → Except ε β}
    (relates : ∀ item result, step item = .ok result → related item result) {items : List α}
    {results : List β} (mapped : items.mapM step = .ok results) :
    List.Forall₂ related items results := by
  induction items generalizing results with
  | nil =>
      obtain rfl : [] = results := by simpa using mapped
      exact .nil
  | cons item items ih =>
      obtain ⟨result, rest, found, later, rfl⟩ := mapM_cons_eq_ok.mp mapped
      exact .cons (relates item result found) (ih later)

theorem exists_of_mem_forall₂ {α β : Type} {related : α → β → Prop} {items : List α}
    {others : List β} (alike : List.Forall₂ related items others) {other : β}
    (member : other ∈ others) : ∃ item ∈ items, related item other := by
  induction alike with
  | nil => cases member
  | @cons item first items others own rest ih =>
      rcases List.mem_cons.mp member with rfl | later
      · exact ⟨item, List.mem_cons_self, own⟩
      · obtain ⟨found, listed, found_own⟩ := ih later
        exact ⟨found, List.mem_cons_of_mem item listed, found_own⟩

theorem forall_mem_iff_of_forall₂ {α β : Type} {related : α → β → Prop} {items : List α}
    {others : List β} (alike : List.Forall₂ related items others) {holds : α → Prop}
    {other_holds : β → Prop}
    (same : ∀ item other, related item other → (holds item ↔ other_holds other)) :
    (∀ item ∈ items, holds item) ↔ ∀ other ∈ others, other_holds other := by
  induction alike with
  | nil => exact iff_of_true (List.forall_mem_nil _) (List.forall_mem_nil _)
  | cons own _ ih => rw [List.forall_mem_cons, List.forall_mem_cons, same _ _ own, ih]

theorem forall₂_map_eq_iff {α β γ : Type} {of : α → γ} {other_of : β → γ} {items : List α}
    {others : List β} :
    List.Forall₂ (fun item other => of item = other_of other) items others ↔
      items.map of = others.map other_of := by
  rw [← List.forall₂_eq_eq_eq, List.forall₂_map_left_iff, List.forall₂_map_right_iff]

end TableMapping
