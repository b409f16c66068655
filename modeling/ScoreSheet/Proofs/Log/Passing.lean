import ScoreSheet.Proofs.Log.Selection

/-!
What reaches the log, and what does where no span is open.  Both filters are asked about a
callsite, but only the log's own one decides: the collector's filter never holds back what the
log's lets pass and never adds to it.
-/

namespace ScoreSheet

namespace Threshold

theorem foldl_max_allows (start : Threshold) (thresholds : List Threshold) (level : Level) :
    (thresholds.foldl max start).allows level =
      (start.allows level || thresholds.any (·.allows level)) := by
  induction thresholds generalizing start with
  | nil => exact (Bool.or_false _).symm
  | cons first rest ih => rw [List.foldl_cons, ih, allows_max, List.any_cons, Bool.or_assoc]

theorem loosest_allows (thresholds : List Threshold) (level : Level) :
    (loosest thresholds).allows level = thresholds.any (·.allows level) := by
  have none : Threshold.off.allows level = false := by cases level <;> rfl
  rw [loosest, foldl_max_allows, none, Bool.false_or]

end Threshold

namespace Filter

variable {filter : Filter} {callsite : Callsite} {scope : Option Threshold} {level : Level}

theorem limit_allows_of_mem {directive : Directive} (member : directive ∈ filter.directives)
    (allows : directive.threshold.allows level = true) : filter.limit.allows level = true := by
  unfold limit
  split
  · cases level <;> rfl
  · rw [Threshold.loosest_allows, List.any_map, List.any_eq_true]
    exact ⟨directive, member, allows⟩

theorem limit_allows_of_enables (enables : filter.Enables callsite) :
    filter.limit.allows callsite.level = true := by
  obtain ⟨directive, ⟨before, after, split, _⟩, allows⟩ := enables
  have concerning : directive ∈ filter.statics.filter (·.concerns callsite) := by
    rw [split]
    exact List.mem_append_right before List.mem_cons_self
  exact limit_allows_of_mem (List.mem_filter.mp (List.mem_filter.mp concerning).1).1 allows

theorem dynamicLimit_allows_iff :
    filter.dynamicLimit.allows level = true ↔
      ∃ directive ∈ filter.dynamics, directive.threshold.allows level = true := by
  rw [dynamicLimit, Threshold.loosest_allows, List.any_map, List.any_eq_true]
  rfl

theorem limit_allows_of_dynamicLimit (allows : filter.dynamicLimit.allows level = true) :
    filter.limit.allows level = true := by
  obtain ⟨directive, dynamic, allows⟩ := dynamicLimit_allows_iff.mp allows
  exact limit_allows_of_mem (List.mem_filter.mp dynamic).1 allows

theorem watches_event (filter : Filter) (event : Event) :
    filter.watches event.callsite = false := by
  cases event <;> rfl

theorem passes_iff (unwatched : filter.watches callsite = false) :
    filter.passes scope callsite = true ↔
      filter.Enables callsite ∨
        filter.dynamicLimit.allows callsite.level = true ∧
          ∃ threshold, scope = some threshold ∧ threshold.allows callsite.level = true := by
  rw [← passesStatics_iff_enables, or_comm]
  cases scope with
  | none => simp [passes, unwatched]
  | some threshold => simp [passes, unwatched]

theorem passes_none_iff (unwatched : filter.watches callsite = false) :
    filter.passes none callsite = true ↔ filter.Enables callsite := by
  rw [passes_iff unwatched]
  simp

theorem interest_eq_always_iff (unwatched : filter.watches callsite = false) :
    filter.interest callsite = .always ↔ filter.Enables callsite := by
  rw [← passesStatics_iff_enables, interest, unwatched, Bool.false_or]
  split
  · next passes => simp [passes]
  · next blocked =>
      split <;> simp [blocked]

theorem dynamics_eq_nil_of_interest (never : filter.interest callsite = .never) :
    filter.dynamics = [] := by
  unfold interest at never
  split at never
  · cases never
  · split at never
    · next none => exact List.isEmpty_iff.mp none
    · cases never

end Filter

namespace Filters

/-- Neither what both filters know of a callsite beforehand nor the limit that they share changes
what the log's own one lets pass. -/
theorem shows_iff_passes (filters : Filters) (scope : Option Threshold) {callsite : Callsite}
    (unwatched : filters.log.watches callsite = false) :
    filters.shows scope callsite = true ↔ filters.log.passes scope callsite = true := by
  have passes : filters.log.passes scope callsite = true ↔ _ := Filter.passes_iff unwatched
  have always := Filter.interest_eq_always_iff unwatched
  rw [shows, Bool.and_eq_true]
  constructor
  · rintro ⟨_, shown⟩
    split at shown
    · next both => exact passes.mpr (Or.inl (always.mp both))
    · cases shown
    · exact shown
  · intro passed
    constructor
    · rw [Threshold.allows_max, Bool.or_eq_true]
      rcases passes.mp passed with enables | ⟨allows, _⟩
      · exact Or.inr (Filter.limit_allows_of_enables enables)
      · exact Or.inr (Filter.limit_allows_of_dynamicLimit allows)
    · split
      · rfl
      · next never =>
          rcases passes.mp passed with enables | ⟨allows, _⟩
          · rw [always.mpr enables] at never
            cases never
          · obtain ⟨directive, dynamic, _⟩ := Filter.dynamicLimit_allows_iff.mp allows
            rw [Filter.dynamics_eq_nil_of_interest never] at dynamic
            cases dynamic
      · exact passed

theorem shows_none_iff (filters : Filters) {callsite : Callsite}
    (unwatched : filters.log.watches callsite = false) :
    filters.shows none callsite = true ↔ filters.log.Enables callsite :=
  (filters.shows_iff_passes none unwatched).trans (Filter.passes_none_iff unwatched)

theorem showsEvent_none_iff (filters : Filters) (event : Event) :
    filters.showsEvent none event = true ↔ filters.log.Enables event.callsite :=
  filters.shows_none_iff (filters.log.watches_event event)

end Filters

theorem Log.lines_singleton (log : Log) (opened : Option RenderSpan) (event : Event) :
    log.lines opened [event] =
      if log.filters.showsEvent opened event = true then
        event.line log.colouring (log.filters.shownSpan? opened)
      else "" := by
  unfold lines
  split
  · next shows =>
      rw [List.filter_cons_of_pos shows]
      rfl
  · next blocked =>
      rw [List.filter_cons_of_neg blocked]
      rfl

theorem Log.lines_none (log : Log) (event : Event) :
    log.lines none [event] =
      if log.filters.log.Enables event.callsite then event.line log.colouring none else "" := by
  simp only [lines_singleton, Filters.showsEvent_none_iff]
  rfl

theorem Log.lines_nil (log : Log) (opened : Option RenderSpan) : log.lines opened [] = "" := rfl

end ScoreSheet
