import ScriptReplay.Proofs.Splitter.Feed

/-!
# Scripts that go on

Lines that are put behind a script do not revise what it has completed. What is pending is the start
of the next statement to be completed, whatever the lines are (`pending_prefix_feed`): it may grow
until it is complete, and is complete at the latest where the script ends. So at most the last
statement of a script changes when the script goes on, and only where it was still pending
(`split_append_revises_last`).
-/

namespace ScriptReplay.Splitter

/-! ## What is pending is only added to -/

/-- Where a line is cut, the pending text begins the first statement, if one is completed. -/
theorem pending_prefix_cutLine (delimiter : Delimiter) (line pending : List Char) :
    pending <+: (cutLine delimiter line pending).1.headD (cutLine delimiter line pending).2 := by
  unfold cutLine
  split
  · exact List.prefix_refl pending
  · next first rest _ =>
    have hopened : pending <+: pending ++ ' ' :: first := List.prefix_append pending _
    dsimp only
    split
    · exact hopened
    · exact hopened

/-- A line completes the pending statement first, or leaves its text at the start of what is
pending. -/
theorem pending_prefix_step (splitter : Splitter) (state : State) (line : List Char) :
    state.pending <+:
      (splitter.step state line).1.headD (splitter.step state line).2.pending := by
  have htreatment := treatment_step splitter state line
  generalize splitter.step state line = taken at htreatment ⊢
  cases htreatment with
  | skipped => exact List.prefix_refl state.pending
  | closing => exact List.prefix_refl state.pending
  | cutting => exact pending_prefix_cutLine splitter.delimiter (trimmed line) state.pending
  | continuing =>
    rw [List.append_assoc]
    exact List.prefix_append state.pending _

/-- Lines complete the pending statement before any other, or leave its text at the start of what is
pending. -/
theorem pending_prefix_feed (splitter : Splitter) (state : State) (lines : List (List Char)) :
    state.pending <+:
      (splitter.feed state lines).1.headD (splitter.feed state lines).2.pending := by
  induction lines generalizing state with
  | nil => exact List.prefix_refl state.pending
  | cons line rest ih =>
    have hstep := pending_prefix_step splitter state line
    have hrest := ih (splitter.step state line).2
    rw [feed_cons]
    cases hdone : (splitter.step state line).1 with
    | nil =>
      rw [hdone] at hstep
      exact hstep.trans hrest
    | cons first more =>
      rw [hdone] at hstep
      exact hstep

/-- Reading on from pending text gives a statement that begins with it, and maybe others. -/
theorem exists_splitFrom_eq_cons (splitter : Splitter) {state : State} (h : state.pending ≠ [])
    (lines : List (List Char)) :
    ∃ grown later, splitter.splitFrom state lines = grown :: later ∧ state.pending <+: grown := by
  have hprefix := pending_prefix_feed splitter state lines
  unfold splitFrom
  cases hdone : (splitter.feed state lines).1 with
  | nil =>
    rw [hdone, List.headD_nil] at hprefix
    have hpending : (splitter.feed state lines).2.pending ≠ [] := by
      intro hnil
      rw [hnil, List.prefix_nil] at hprefix
      exact h hprefix
    exact ⟨_, [], by rw [flush_of_pending_ne_nil hpending, List.nil_append], hprefix⟩
  | cons first more =>
    rw [hdone, List.headD_cons] at hprefix
    exact ⟨first, more ++ (splitter.feed state lines).2.flush, rfl, hprefix⟩

/-! ## Statements that stay -/

/-- When a script goes on, all its statements stay but the last, and the last one too if nothing was
pending. A last statement that was pending is the start of the one in its place. -/
theorem split_append_revises_last (splitter : Splitter) (before after : List String) :
    (splitter.split before).dropLast <+: splitter.split (before ++ after) ∧
      ((splitter.stateAfter before).pending = [] →
        splitter.split before <+: splitter.split (before ++ after)) ∧
      ((splitter.stateAfter before).pending ≠ [] →
        ∃ opened grown later,
          splitter.split before = (splitter.split before).dropLast ++ [opened] ∧
          splitter.split (before ++ after) = (splitter.split before).dropLast ++ grown :: later ∧
          opened.toList <+: grown.toList) := by
  have hcompleted : splitter.completed before <+: splitter.split (before ++ after) := by
    rw [split_append]
    exact List.prefix_append _ _
  by_cases hpending : (splitter.stateAfter before).pending = []
  · have hsplit : splitter.split before = splitter.completed before := split_eq_completed hpending
    rw [hsplit]
    exact ⟨(List.dropLast_prefix _).trans hcompleted, fun _ => hcompleted,
      fun hopen => absurd hpending hopen⟩
  · have hsplit := split_eq_completed_append hpending
    have hinit : (splitter.split before).dropLast = splitter.completed before := by
      rw [hsplit, List.dropLast_concat]
    obtain ⟨grown, later, hfrom, hprefix⟩ :=
      exists_splitFrom_eq_cons splitter hpending (after.map String.toList)
    rw [hinit]
    refine ⟨hcompleted, fun hnil => absurd hnil hpending, fun _ => ?_⟩
    refine ⟨String.ofList (splitter.stateAfter before).pending, String.ofList grown,
      later.map String.ofList, hsplit, ?_, ?_⟩
    · rw [split_append, resume, hfrom, List.map_cons]
    · rw [String.toList_ofList, String.toList_ofList]
      exact hprefix

/-- The first of two statements stays. The second, which is pending, goes on over a line of
semicolons and into a block that hides one. -/
theorem split_append_revises_last_block :
    ((Splitter.stateAfter { database := .postgresql } ["a;"]).pending = [] ∧
      [" a"] <+: Splitter.split { database := .postgresql } (["a;"] ++ ["$$", "b;"])) ∧
    ((Splitter.stateAfter { database := .postgresql } ["a;", "DO"]).pending ≠ [] ∧
      ∃ grown later,
        Splitter.split { database := .postgresql } (["a;", "DO"] ++ [";;", "$$", "b;", "-- c"]) =
          [" a"] ++ grown :: later ∧
        "DO ".toList <+: grown.toList) := by
  have hnothing : (Splitter.stateAfter { database := .postgresql } ["a;"]).pending = [] := by
    decide
  have hpending : (Splitter.stateAfter { database := .postgresql } ["a;", "DO"]).pending ≠ [] := by
    decide
  have hbefore : Splitter.split { database := .postgresql } ["a;", "DO"] = [" a", "DO "] := by
    decide
  refine ⟨⟨hnothing, ?_⟩, hpending, ?_⟩
  · exact (split_append_revises_last { database := .postgresql } ["a;"] ["$$", "b;"]).2.1 hnothing
  · obtain ⟨opened, grown, later, hopened, hgrown, hprefix⟩ :=
      (split_append_revises_last { database := .postgresql } ["a;", "DO"]
        [";;", "$$", "b;", "-- c"]).2.2 hpending
    rw [hbefore] at hopened hgrown
    obtain rfl : opened = "DO " := by simpa using hopened.symm
    exact ⟨grown, later, hgrown, hprefix⟩

end ScriptReplay.Splitter
