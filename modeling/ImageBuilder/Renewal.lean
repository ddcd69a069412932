import Mathlib.Data.List.Basic

set_option autoImplicit false

/- Steps that write some places of a state afresh and leave the others alone: what is
written is good, whatever was there before. -/
namespace Renewal

variable {ι α : Type}

/-- Every one of the places has a good value now, and nothing else has changed. -/
structure Renewed (good : α → Prop) (places : List ι) (before after : ι → α) : Prop where
  inside : ∀ i ∈ places, good (after i)
  outside : ∀ i, i ∉ places → after i = before i

variable {good : α → Prop} {places more : List ι} {before middle after : ι → α}

theorem Renewed.refl (state : ι → α) : Renewed good [] state state := by
  constructor
  · intro i member
    nomatch member
  · intro i _
    rfl

/-- What the first step wrote is still good, or the second has written it again. -/
theorem Renewed.trans (first : Renewed good places before middle)
    (second : Renewed good more middle after) : Renewed good (places ++ more) before after := by
  constructor
  · intro i member
    by_cases again : i ∈ more
    · exact second.inside i again
    · rw [second.outside i again]
      exact first.inside i ((List.mem_append.mp member).resolve_right again)
  · intro i apart
    rw [List.mem_append, not_or] at apart
    exact (second.outside i apart.2).trans (first.outside i apart.1)

theorem Renewed.single {i : ι} (written : good (after i))
    (others : ∀ j, j ≠ i → after j = before j) : Renewed good [i] before after := by
  constructor
  · intro j member
    rwa [List.mem_singleton.mp member]
  · intro j apart
    exact others j fun is => apart (List.mem_singleton.mpr is)

/-- The same places, listed otherwise. -/
theorem Renewed.congr (step : Renewed good places before after)
    (same : ∀ i, i ∈ places ↔ i ∈ more) : Renewed good more before after :=
  ⟨fun i member => step.inside i ((same i).mpr member),
    fun i apart => step.outside i fun member => apart ((same i).mp member)⟩

end Renewal
