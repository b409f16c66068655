import ScoreSheet.Proofs.Log.Passing
import ScoreSheet.Proofs.Log.PlainList

/-!
Which plain directive decides about a target: the one with the longest target that the
given one begins with, and the last of those with the same target.  Of directives with
different targets the order does not matter.
-/

namespace ScoreSheet
namespace PlainDirective

def Covers (directive : PlainDirective) (target : String) : Prop :=
  directive.target.toList <+: target.toList

instance (directive : PlainDirective) (target : String) : Decidable (directive.Covers target) :=
  inferInstanceAs (Decidable (_ <+: _))

/-- The directive of a list that decides about a target. -/
structure Selected (directives : List PlainDirective) (target : String)
    (directive : PlainDirective) : Prop where
  covers : directive.Covers target
  longest : ∀ other ∈ directives, other.Covers target →
    other.target.length ≤ directive.target.length
  last : ∃ before after, directives = before ++ directive :: after ∧
    ∀ later ∈ after, later.target ≠ directive.target

section

variable {earlier later : PlainDirective} {target : String}

theorem isStatic_meaning (directive : PlainDirective) : directive.meaning.isStatic = true := rfl

theorem isDynamic_meaning (directive : PlainDirective) : directive.meaning.isDynamic = false := rfl

theorem concerns_meaning_iff (directive : PlainDirective) (callsite : Callsite) :
    directive.meaning.concerns callsite = true ↔ directive.Covers callsite.target := by
  have fields : directive.meaning.coversField callsite = true := rfl
  rw [Directive.concerns, fields, Bool.or_true, Bool.and_true, Covers, meaning,
    Directive.coversTarget]
  by_cases bare : directive.target = ""
  · simp [bare]
  · simp [bare]

theorem exists_append_of_covers (covers : earlier.Covers target) (laterCovers : later.Covers target)
    (shorter : earlier.target.length ≤ later.target.length) :
    ∃ rest, later.target = earlier.target ++ rest := by
  obtain ⟨rest, joined⟩ := List.prefix_of_prefix_length_le covers laterCovers
    (by rwa [String.length_toList, String.length_toList])
  refine ⟨String.ofList rest, ?_⟩
  rw [← String.toList_inj, String.toList_append, String.toList_ofList, joined]

theorem target_eq_of_covers (covers : earlier.Covers target) (laterCovers : later.Covers target)
    (lengths : later.target.length = earlier.target.length) : later.target = earlier.target := by
  have lengths : earlier.target.toList.length = later.target.toList.length := by
    rw [String.length_toList, String.length_toList, lengths]
  have same := (List.prefix_of_prefix_length_le covers laterCovers
    (Nat.le_of_eq lengths)).eq_of_length lengths
  exact String.toList_inj.mp same.symm

theorem specificity_meaning (directive : PlainDirective) :
    directive.meaning.specificity =
      if directive.target = "" then 0 else 2 * (directive.target.utf8ByteSize + 1) := by
  unfold meaning Directive.specificity
  by_cases bare : directive.target = "" <;> simp [bare]

theorem specificity_le_of_append {rest : String} (joined : later.target = earlier.target ++ rest) :
    earlier.meaning.specificity ≤ later.meaning.specificity := by
  have size := congrArg String.utf8ByteSize joined
  rw [String.utf8ByteSize_append] at size
  rw [specificity_meaning, specificity_meaning]
  by_cases bare : later.target = ""
  · rw [bare, eq_comm, String.append_eq_empty_iff] at joined
    rw [if_pos joined.1]
    exact Nat.zero_le _
  · rw [if_neg bare]
    split <;> omega

theorem specificity_lt_of_append {rest : String} (joined : later.target = earlier.target ++ rest)
    (longer : rest ≠ "") : earlier.meaning.specificity < later.meaning.specificity := by
  have size := congrArg String.utf8ByteSize joined
  have some : rest.utf8ByteSize ≠ 0 := fun none => longer (String.utf8ByteSize_eq_zero_iff.mp none)
  rw [String.utf8ByteSize_append] at size
  have targeted : later.target ≠ "" := by
    rw [joined]
    exact fun none => longer (String.append_eq_empty_iff.mp none).2
  rw [specificity_meaning, specificity_meaning, if_neg targeted]
  split <;> omega

theorem specificity_le_iff (covers : earlier.Covers target) (laterCovers : later.Covers target) :
    earlier.meaning.specificity ≤ later.meaning.specificity ↔
      earlier.target.length ≤ later.target.length := by
  constructor
  · intro atLeast
    rw [← Nat.not_lt]
    intro longer
    obtain ⟨rest, joined⟩ := exists_append_of_covers laterCovers covers (Nat.le_of_lt longer)
    have more := specificity_lt_of_append joined (by
      rintro rfl
      rw [joined, String.append_empty] at longer
      omega)
    omega
  · intro shorter
    obtain ⟨rest, joined⟩ := exists_append_of_covers covers laterCovers shorter
    exact specificity_le_of_append joined

theorem supersedes_meaning_iff (covers : earlier.Covers target)
    (laterCovers : later.Covers target) :
    later.meaning.supersedes earlier.meaning = true ↔
      earlier.target.length ≤ later.target.length := by
  have names : earlier.meaning.fieldName ≤ later.meaning.fieldName := String.le_refl _
  rw [Directive.supersedes_iff, ← specificity_le_iff covers laterCovers]
  constructor
  · rintro (more | ⟨same, _⟩)
    · exact Nat.le_of_lt more
    · exact Nat.le_of_eq same.symm
  · intro atLeast
    rcases Nat.lt_or_eq_of_le atLeast with more | same
    · exact Or.inl more
    · exact Or.inr ⟨same.symm, names⟩

end

/-! ### Selection -/

def covering (target : String) (directives : List PlainDirective) : List PlainDirective :=
  directives.filter fun directive => directive.Covers target

section

variable {directives : List PlainDirective} {directive other : PlainDirective}
  {callsite : Callsite} {target : String} {chosen : Directive}

theorem meaning_mem_covering (member : directive ∈ directives) (covers : directive.Covers target) :
    directive.meaning ∈ (covering target directives).map meaning :=
  List.mem_map_of_mem (List.mem_filter.mpr ⟨member, decide_eq_true covers⟩)

theorem exists_of_mem_covering (member : chosen ∈ (covering target directives).map meaning) :
    ∃ directive ∈ directives, directive.Covers target ∧ directive.meaning = chosen := by
  obtain ⟨directive, kept, same⟩ := List.mem_map.mp member
  obtain ⟨present, covers⟩ := List.mem_filter.mp kept
  exact ⟨directive, present, of_decide_eq_true covers, same⟩

theorem candidates_eq (directives : List PlainDirective) (callsite : Callsite) :
    (Filter.ofPlain directives).statics.filter (·.concerns callsite) =
      (covering callsite.target directives).map meaning := by
  have statics : (Filter.ofPlain directives).statics = directives.map meaning := by
    apply List.filter_eq_self.mpr
    intro member present
    obtain ⟨directive, _, rfl⟩ := List.mem_map.mp present
    exact directive.isStatic_meaning
  rw [statics, List.filter_map]
  congr 1
  apply List.filter_congr
  intro directive _
  rw [Bool.eq_iff_iff, decide_eq_true_iff]
  exact directive.concerns_meaning_iff callsite

theorem covering_append_cons (before after : List PlainDirective)
    (covers : directive.Covers target) :
    (covering target (before ++ directive :: after)).map meaning =
      (covering target before).map meaning ++
        directive.meaning :: (covering target after).map meaning := by
  unfold covering
  rw [List.filter_append, List.filter_cons_of_pos (by simpa using covers), List.map_append,
    List.map_cons]

theorem exists_split_of_covering {before after : List Directive}
    (split : (covering target directives).map meaning = before ++ chosen :: after) :
    ∃ front directive behind, directives = front ++ directive :: behind ∧
      directive.Covers target ∧ directive.meaning = chosen ∧
      (covering target front).map meaning = before ∧
      (covering target behind).map meaning = after := by
  obtain ⟨keptBefore, keptRest, kept, rfl, restSplit⟩ := List.map_eq_append_iff.mp split
  obtain ⟨directive, keptAfter, rfl, same, rfl⟩ := List.map_eq_cons_iff.mp restSplit
  obtain ⟨front, back, rfl, rfl, backSplit⟩ := List.filter_eq_append_iff.mp kept
  obtain ⟨skipped, behind, rfl, others, covers, rfl⟩ := List.filter_eq_cons_iff.mp backSplit
  refine ⟨front ++ skipped, directive, behind, (List.append_assoc ..).symm,
    of_decide_eq_true covers, same, ?_, rfl⟩
  rw [covering, List.filter_append, List.filter_eq_nil_iff.mpr others, List.append_nil]

theorem Selected.decides (selected : Selected directives callsite.target directive) :
    Directive.Decides ((Filter.ofPlain directives).statics.filter (·.concerns callsite))
      directive.meaning := by
  obtain ⟨covers, longest, before, after, rfl, last⟩ := selected
  rw [candidates_eq, covering_append_cons before after covers]
  refine ⟨_, _, rfl, ?_, ?_⟩
  · intro member present
    obtain ⟨earlier, inBefore, earlierCovers, rfl⟩ := exists_of_mem_covering present
    rw [supersedes_meaning_iff earlierCovers covers]
    exact longest earlier (List.mem_append_left _ inBefore) earlierCovers
  · intro member present
    obtain ⟨later, inAfter, laterCovers, rfl⟩ := exists_of_mem_covering present
    rw [← Bool.not_eq_true, supersedes_meaning_iff covers laterCovers]
    intro atLeast
    have atMost := longest later
      (List.mem_append_right before (List.mem_cons_of_mem directive inAfter)) laterCovers
    have same := target_eq_of_covers covers laterCovers (Nat.le_antisymm atMost atLeast)
    exact last later inAfter same

theorem exists_selected_of_decides
    (decides : Directive.Decides
      ((Filter.ofPlain directives).statics.filter (·.concerns callsite)) chosen) :
    ∃ directive, Selected directives callsite.target directive ∧ directive.meaning = chosen := by
  obtain ⟨before, after, split, overBefore, underAfter⟩ := decides
  rw [candidates_eq] at split
  obtain ⟨front, directive, behind, rfl, covers, rfl, rfl, rfl⟩ := exists_split_of_covering split
  refine ⟨directive, ⟨covers, ?_, front, behind, rfl, ?_⟩, rfl⟩
  · intro other member otherCovers
    rw [← supersedes_meaning_iff otherCovers covers]
    rcases List.mem_append.mp member with inFront | fromChosen
    · exact overBefore _ (meaning_mem_covering inFront otherCovers)
    · rcases List.mem_cons.mp fromChosen with rfl | isBehind
      · exact (supersedes_meaning_iff covers covers).mpr (Nat.le_refl _)
      · exact Directive.supersedes_of_not_supersedes
          (underAfter _ (meaning_mem_covering isBehind otherCovers))
  · intro later isBehind same
    have laterCovers : later.Covers callsite.target := by
      rwa [Covers, same]
    have not := underAfter _ (meaning_mem_covering isBehind laterCovers)
    have again := (supersedes_meaning_iff covers laterCovers).mpr
      (Nat.le_of_eq (congrArg String.length same.symm))
    rw [again] at not
    cases not

end

/-- A directive is selected for a target, and it allows a level. -/
def Admits (directives : List PlainDirective) (target : String) (level : Level) : Prop :=
  ∃ directive, Selected directives target directive ∧ directive.threshold.allows level = true

theorem enables_ofPlain_iff (directives : List PlainDirective) (callsite : Callsite) :
    (Filter.ofPlain directives).Enables callsite ↔
      Admits directives callsite.target callsite.level := by
  constructor
  · rintro ⟨chosen, decides, allows⟩
    obtain ⟨directive, selected, rfl⟩ := exists_selected_of_decides decides
    exact ⟨directive, selected, allows⟩
  · rintro ⟨directive, selected, allows⟩
    exact ⟨directive.meaning, selected.decides, allows⟩

instance (directives : List PlainDirective) (target : String) (level : Level) :
    Decidable (Admits directives target level) :=
  decidable_of_iff _ (enables_ofPlain_iff directives ⟨target, level, none, []⟩)

theorem admits_trace_iff (directives : List PlainDirective) (target : String) :
    Admits directives target .trace ↔
      ∃ directive, Selected directives target directive ∧ directive.threshold = .upTo .trace := by
  have only : ∀ threshold : Threshold,
      threshold.allows .trace = true ↔ threshold = .upTo .trace := by
    intro threshold
    cases threshold with
    | off => decide
    | upTo level => cases level <;> decide
  simp only [Admits, only]

/-! ### Order -/

/-- Two lists have the same directives for each target, in the same order. -/
def SameForTargets (directives others : List PlainDirective) : Prop :=
  ∀ target, (directives.filter fun directive => directive.target = target) =
    others.filter fun directive => directive.target = target

section

variable {directives others : List PlainDirective} {directive : PlainDirective} {target : String}

theorem SameForTargets.mem (same : SameForTargets directives others) (member : directive ∈ others) :
    directive ∈ directives := by
  have own : directive ∈ others.filter fun other => other.target = directive.target :=
    List.mem_filter.mpr ⟨member, decide_eq_true rfl⟩
  rw [← same directive.target] at own
  exact (List.mem_filter.mp own).1

theorem Selected.of_same (selected : Selected directives target directive)
    (same : SameForTargets directives others) : Selected others target directive := by
  obtain ⟨covers, longest, before, after, rfl, last⟩ := selected
  refine ⟨covers, fun other member => longest other (same.mem member), ?_⟩
  have own := same directive.target
  have none : (after.filter fun other => other.target = directive.target) = [] := by
    apply List.filter_eq_nil_iff.mpr
    intro later member equal
    exact last later member (of_decide_eq_true equal)
  rw [List.filter_append, List.filter_cons_of_pos (by simp), none] at own
  obtain ⟨front, back, rfl, _, backOwn⟩ := List.filter_eq_append_iff.mp own.symm
  obtain ⟨skipped, behind, rfl, _, _, noneBehind⟩ := List.filter_eq_cons_iff.mp backOwn
  refine ⟨front ++ skipped, behind, (List.append_assoc ..).symm, ?_⟩
  intro later member equal
  exact List.filter_eq_nil_iff.mp noneBehind later member (decide_eq_true equal)

theorem SameForTargets.admits_iff (same : SameForTargets directives others) (level : Level) :
    Admits directives target level ↔ Admits others target level := by
  have back : SameForTargets others directives := fun target => (same target).symm
  constructor
  · rintro ⟨directive, selected, allows⟩
    exact ⟨directive, selected.of_same same, allows⟩
  · rintro ⟨directive, selected, allows⟩
    exact ⟨directive, selected.of_same back, allows⟩

end

end PlainDirective
end ScoreSheet
