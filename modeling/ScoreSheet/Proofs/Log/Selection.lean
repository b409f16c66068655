import ScoreSheet.Log.Line

/-!
Which static directive decides about a callsite.  The one that reading a filter from
its front keeps is, among those that concern the callsite, the most specific, and the
last of those that are equally specific.
-/

namespace ScoreSheet
namespace Directive

/-- The directive that decides among some: it is preferred to all before it, and none
after it is preferred to it. -/
def Decides (candidates : List Directive) (directive : Directive) : Prop :=
  ∃ before after, candidates = before ++ directive :: after ∧
    (∀ earlier ∈ before, directive.supersedes earlier = true) ∧
    ∀ later ∈ after, later.supersedes directive = false

theorem supersedes_iff (later earlier : Directive) :
    later.supersedes earlier = true ↔
      earlier.specificity < later.specificity ∨
        later.specificity = earlier.specificity ∧ earlier.fieldName ≤ later.fieldName := by
  unfold supersedes
  split
  · next same =>
      rw [Bool.not_eq_true', decide_eq_false_iff_not, String.not_lt]
      constructor
      · intro names
        exact Or.inr ⟨same, names⟩
      · rintro (longer | ⟨_, names⟩)
        · omega
        · exact names
  · next different =>
      simp [different]

theorem supersedes_trans {first second third : Directive}
    (secondOverFirst : second.supersedes first = true)
    (thirdOverSecond : third.supersedes second = true) : third.supersedes first = true := by
  rw [supersedes_iff] at secondOverFirst thirdOverSecond ⊢
  rcases secondOverFirst with longer | ⟨same, names⟩
  · left
    rcases thirdOverSecond with again | ⟨same, _⟩ <;> omega
  · rcases thirdOverSecond with longer | ⟨again, otherNames⟩
    · left
      omega
    · exact Or.inr ⟨again.trans same, String.le_trans names otherNames⟩

theorem supersedes_of_not_supersedes {left right : Directive}
    (not : left.supersedes right = false) : right.supersedes left = true := by
  rw [supersedes_iff]
  rw [← Bool.not_eq_true, supersedes_iff, not_or, not_and] at not
  rcases Nat.lt_trichotomy left.specificity right.specificity with less | same | greater
  · exact Or.inl less
  · right
    have names := not.2 same
    exact ⟨same.symm, (String.le_total _ _).resolve_right names⟩
  · exact absurd greater not.1

private theorem Decides.cons {candidates : List Directive} {first directive : Directive}
    (decides : Decides candidates directive) (above : directive.supersedes first = true) :
    Decides (first :: candidates) directive := by
  obtain ⟨before, after, rfl, overBefore, underAfter⟩ := decides
  refine ⟨first :: before, after, rfl, ?_, underAfter⟩
  intro earlier member
  rcases List.mem_cons.mp member with rfl | within
  · exact above
  · exact overBefore earlier within

private theorem Decides.supersedes_head {rest : List Directive} {first directive : Directive}
    (decides : Decides (first :: rest) directive) : directive.supersedes first = true := by
  obtain ⟨before, after, split, overBefore, _⟩ := decides
  cases before with
  | nil =>
      obtain rfl := (List.cons.inj split).1
      exact (supersedes_iff first first).mpr (Or.inr ⟨rfl, String.le_refl _⟩)
  | cons other others =>
      obtain rfl := (List.cons.inj split).1
      exact overBefore first List.mem_cons_self

private theorem Decides.insert_second {rest : List Directive} {first second directive : Directive}
    (decides : Decides (first :: rest) directive) (under : second.supersedes first = false) :
    Decides (first :: second :: rest) directive := by
  have overFirst := decides.supersedes_head
  obtain ⟨before, after, split, overBefore, underAfter⟩ := decides
  cases before with
  | nil =>
      obtain ⟨rfl, rfl⟩ := List.cons.inj split
      refine ⟨[], second :: rest, rfl, List.forall_mem_nil _, ?_⟩
      intro later member
      rcases List.mem_cons.mp member with rfl | within
      · exact under
      · exact underAfter later within
  | cons other others =>
      obtain ⟨rfl, rfl⟩ := List.cons.inj split
      have overSecond := supersedes_trans (supersedes_of_not_supersedes under) overFirst
      refine ⟨first :: second :: others, after, rfl, ?_, underAfter⟩
      intro earlier member
      rcases List.mem_cons.mp member with rfl | later
      · exact overFirst
      · rcases List.mem_cons.mp later with rfl | within
        · exact overSecond
        · exact overBefore earlier (List.mem_cons_of_mem _ within)

theorem selectFrom_decides (callsite : Callsite) (chosen : Directive)
    (directives : List Directive) :
    ∃ directive, selectFrom callsite (some chosen) directives = some directive ∧
      Decides (chosen :: directives.filter (·.concerns callsite)) directive := by
  -- The directive that decides so far stands in front of those not looked at yet.
  induction directives generalizing chosen with
  | nil => exact ⟨chosen, rfl, [], [], rfl, List.forall_mem_nil _, List.forall_mem_nil _⟩
  | cons first rest ih =>
      rw [selectFrom]
      cases concerned : first.concerns callsite with
      | false =>
          rw [List.filter_cons_of_neg (by simp [concerned])]
          exact ih chosen
      | true =>
          rw [List.filter_cons_of_pos (by simpa using concerned)]
          by_cases preferred : first.supersedes chosen = true
          · obtain ⟨directive, selected, decides⟩ := ih first
            refine ⟨directive, ?_,
              decides.cons (supersedes_trans preferred decides.supersedes_head)⟩
            rw [if_pos (by simp [preferred]), selected]
          · obtain ⟨directive, selected, decides⟩ := ih chosen
            refine ⟨directive, ?_, decides.insert_second (Bool.eq_false_iff.mpr preferred)⟩
            rw [if_neg (by simp [preferred]), selected]

theorem selectFrom_none (callsite : Callsite) (directives : List Directive) :
    (selectFrom callsite none directives = none ∧
        directives.filter (·.concerns callsite) = []) ∨
      ∃ directive, selectFrom callsite none directives = some directive ∧
        Decides (directives.filter (·.concerns callsite)) directive := by
  induction directives with
  | nil => exact Or.inl ⟨rfl, rfl⟩
  | cons first rest ih =>
      rw [selectFrom]
      cases concerned : first.concerns callsite with
      | false =>
          rw [List.filter_cons_of_neg (by simp [concerned])]
          exact ih
      | true =>
          rw [List.filter_cons_of_pos (by simpa using concerned)]
          exact Or.inr (selectFrom_decides callsite first rest)

private theorem eq_of_split {between after otherAfter : List Directive}
    {directive other : Directive} (split : directive :: after = between ++ other :: otherAfter)
    (under : ∀ later ∈ after, later.supersedes directive = false)
    (above : ∀ earlier ∈ between, other.supersedes earlier = true) : directive = other := by
  cases between with
  | nil => exact (List.cons.inj split).1
  | cons first rest =>
      obtain ⟨rfl, rfl⟩ := List.cons.inj split
      have not := under other (List.mem_append_right rest List.mem_cons_self)
      rw [above directive List.mem_cons_self] at not
      cases not

theorem Decides.unique {candidates : List Directive} {directive other : Directive}
    (decides : Decides candidates directive) (otherDecides : Decides candidates other) :
    directive = other := by
  obtain ⟨before, after, split, above, under⟩ := decides
  obtain ⟨otherBefore, otherAfter, otherSplit, otherOver, otherUnder⟩ := otherDecides
  rw [split] at otherSplit
  rcases List.append_eq_append_iff.mp otherSplit with ⟨between, rfl, rest⟩ | ⟨between, rfl, rest⟩
  · exact eq_of_split rest under fun earlier member =>
      otherOver earlier (List.mem_append_right before member)
  · exact (eq_of_split rest otherUnder fun earlier member =>
      above earlier (List.mem_append_right otherBefore member)).symm

end Directive

namespace Filter

theorem select?_eq_some_iff (filter : Filter) (callsite : Callsite) (directive : Directive) :
    filter.select? callsite = some directive ↔
      Directive.Decides (filter.statics.filter (·.concerns callsite)) directive := by
  unfold select?
  rcases Directive.selectFrom_none callsite filter.statics with
    ⟨selected, none⟩ | ⟨chosen, selected, decides⟩
  · rw [selected, none]
    constructor
    · intro impossible
      cases impossible
    · rintro ⟨before, after, split, _⟩
      cases before <;> cases split
  · rw [selected, Option.some.injEq]
    constructor
    · rintro rfl
      exact decides
    · exact decides.unique

/-- A filter lets a callsite pass where no span is open: the directive that decides
among the static ones that concern it allows its level. -/
def Enables (filter : Filter) (callsite : Callsite) : Prop :=
  ∃ directive, Directive.Decides (filter.statics.filter (·.concerns callsite)) directive ∧
    directive.threshold.allows callsite.level = true

theorem passesStatics_iff_enables (filter : Filter) (callsite : Callsite) :
    filter.passesStatics callsite = true ↔ filter.Enables callsite := by
  unfold passesStatics Enables
  simp only [← select?_eq_some_iff]
  cases filter.select? callsite with
  | none => simp
  | some directive => simp

instance (filter : Filter) (callsite : Callsite) : Decidable (filter.Enables callsite) :=
  decidable_of_iff _ (filter.passesStatics_iff_enables callsite)

end Filter
end ScoreSheet
