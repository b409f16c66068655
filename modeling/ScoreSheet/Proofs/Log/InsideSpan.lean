import ScoreSheet.Proofs.Log.Passing

/-!
What reaches the log while a report's span is open.  An event that is no more severe than the
span passes if the log's own filter lets it pass outside of the span, or if one of the
directives that concern the span does.  The collector's filter has no say in it here either,
although it may decide whether such a span is shown.
-/

namespace ScoreSheet

namespace Filter

variable {filter : Filter} {level : Level}

/-- A filter lets a callsite pass inside of a report's span: it does outside of it, or a directive
that concerns the span, and asks for no other count than the span's, allows the level. -/
def EnablesInside (filter : Filter) (span : RenderSpan) (callsite : Callsite) : Prop :=
  filter.Enables callsite ∨
    ∃ directive ∈ filter.spanDirectives RenderSpan.callsite,
      directive.matchesCount span.count = true ∧ directive.threshold.allows callsite.level = true

instance (filter : Filter) (span : RenderSpan) (callsite : Callsite) :
    Decidable (filter.EnablesInside span callsite) :=
  inferInstanceAs (Decidable (_ ∨ _))

theorem mem_of_mem_withoutReplaced {directive : Directive} {directives : List Directive}
    (member : directive ∈ Directive.withoutReplaced directives) : directive ∈ directives := by
  fun_induction Directive.withoutReplaced directives with
  | case1 => exact member
  | case2 first rest replaced ih => exact List.mem_cons_of_mem first (ih member)
  | case3 first rest last ih =>
      rcases List.mem_cons.mp member with rfl | later
      · exact List.mem_cons_self
      · exact List.mem_cons_of_mem first (ih later)

section

variable {directive : Directive}

theorem dynamicLimit_allows_of_mem {callsite : Callsite}
    (member : directive ∈ filter.spanDirectives callsite)
    (allows : directive.threshold.allows level = true) :
    filter.dynamicLimit.allows level = true :=
  dynamicLimit_allows_iff.mpr
    ⟨directive, mem_of_mem_withoutReplaced (List.mem_filter.mp member).1, allows⟩

theorem watches_of_mem (member : directive ∈ filter.spanDirectives RenderSpan.callsite) :
    filter.watches RenderSpan.callsite = true := by
  rw [watches, Bool.and_eq_true, Bool.not_eq_true', List.isEmpty_eq_false_iff]
  exact ⟨rfl, List.ne_nil_of_mem member⟩

end

theorem scope?_allows_iff (span : RenderSpan) :
    (∃ threshold, filter.scope? span = some threshold ∧ threshold.allows level = true) ↔
      ∃ directive ∈ filter.spanDirectives RenderSpan.callsite,
        directive.matchesCount span.count = true ∧ directive.threshold.allows level = true := by
  have loosest : (Threshold.loosest
      (((filter.spanDirectives RenderSpan.callsite).filter (·.matchesCount span.count)).map
        (·.threshold))).allows level = true ↔
      ∃ directive ∈ filter.spanDirectives RenderSpan.callsite,
        directive.matchesCount span.count = true ∧ directive.threshold.allows level = true := by
    simp only [Threshold.loosest_allows, List.any_map, List.any_eq_true, List.mem_filter,
      Function.comp_apply, and_assoc]
  rw [← loosest, scope?]
  constructor
  · rintro ⟨threshold, applied, allows⟩
    split at applied
    · cases applied
      exact allows
    · cases applied
  · intro allows
    obtain ⟨directive, member, _⟩ := loosest.mp allows
    exact ⟨_, if_pos (watches_of_mem member), allows⟩

end Filter

namespace Filters

variable {filters : Filters}

theorem shows_span {directive : Directive}
    (member : directive ∈ filters.log.spanDirectives RenderSpan.callsite)
    (allows : directive.threshold.allows RenderSpan.callsite.level = true) :
    filters.shows none RenderSpan.callsite = true := by
  have watched := Filter.watches_of_mem member
  have limit := Filter.dynamicLimit_allows_of_mem member allows
  have always : filters.log.interest RenderSpan.callsite = .always := by
    rw [Filter.interest, watched, Bool.true_or, if_pos rfl]
  have passes : filters.log.passes none RenderSpan.callsite = true := by
    simp only [Filter.passes, limit, watched, Bool.true_or, Bool.and_true]
  rw [shows, Threshold.allows_max, Filter.limit_allows_of_dynamicLimit limit, Bool.or_true,
    Bool.true_and, always]
  cases filters.collector.interest RenderSpan.callsite with
  | always => rfl
  | sometimes => exact passes
  | never => exact passes

/-- The span is open for its directives wherever one of them lets the event pass, because that
one lets the span pass as well. -/
theorem showsEvent_some_iff (filters : Filters) (span : RenderSpan) {event : Event}
    (fine : RenderSpan.callsite.level.rank ≤ event.callsite.level.rank) :
    filters.showsEvent (some span) event = true ↔
      filters.log.EnablesInside span event.callsite := by
  have unwatched := filters.log.watches_event event
  rw [showsEvent, filters.shows_iff_passes _ unwatched, Filter.passes_iff unwatched,
    Filter.EnablesInside, ← Filter.scope?_allows_iff]
  apply or_congr_right
  constructor
  · rintro ⟨_, threshold, applied, allows⟩
    refine ⟨threshold, ?_, allows⟩
    obtain ⟨shown, kept, scope⟩ := Option.bind_eq_some_iff.mp applied
    obtain rfl := Option.some.inj (Option.filter_eq_some_iff.mp kept).1
    exact scope
  · rintro ⟨threshold, scope, allows⟩
    obtain ⟨directive, member, _, reaches⟩ := (Filter.scope?_allows_iff span).mp
      ⟨threshold, scope, allows⟩
    have reachesSpan : directive.threshold.allows RenderSpan.callsite.level = true :=
      decide_eq_true (Nat.le_trans fine (of_decide_eq_true reaches))
    have shown : filters.shownSpan? (some span) = some span := by
      rw [shownSpan?, Option.filter_some, if_pos (shows_span member reachesSpan)]
    exact ⟨Filter.dynamicLimit_allows_of_mem member reaches, threshold,
      by rw [shown, Option.bind_some, scope], allows⟩

end Filters

theorem Log.lines_some (log : Log) (span : RenderSpan) {event : Event}
    (fine : RenderSpan.callsite.level.rank ≤ event.callsite.level.rank) :
    log.lines (some span) [event] =
      if log.filters.log.EnablesInside span event.callsite then
        event.line log.colouring (log.filters.shownSpan? (some span))
      else "" := by
  simp only [lines_singleton, log.filters.showsEvent_some_iff span fine]

end ScoreSheet
