import ScriptReplay.Console.Emoji
import ScriptReplay.Proofs.Text.Pieces

/-!
# Pictures in a text

No picture holds a colon, an opening bracket or a backslash (`unmarked_of_emoji?_eq_some`), since no
line of names does. So a text in which a picture stands for a name has fewer colons than before
(`withPictures_eq_or_count_lt`).
-/

namespace ScriptReplay.Console

variable {s : List Char}

/-! ## Characters of the pictures -/

section Names

/-- Strings, and the characters that they are made of. -/
inductive Spelled : List String → List (List Char) → Prop
  | nil : Spelled [] []
  | cons (chars : List Char) {rest : List String} {more : List (List Char)}
      (h : Spelled rest more) : Spelled (String.ofList chars :: rest) (chars :: more)

theorem Spelled.exists_mem {lines : List String} {spelled : List (List Char)}
    (h : Spelled lines spelled) {line : String} (hline : line ∈ lines) :
    ∃ chars ∈ spelled, line.toList = chars := by
  induction h with
  | nil => cases hline
  | cons chars h ih =>
    rcases List.mem_cons.1 hline with rfl | hline
    · exact ⟨chars, List.mem_cons_self, String.toList_ofList⟩
    · obtain ⟨found, hfound, heq⟩ := ih hline
      exact ⟨found, List.mem_cons_of_mem _ hfound, heq⟩

/-- A character that has no meaning where names of pictures and tags are looked for. -/
def isUnmarked (c : Char) : Bool :=
  c != ':' && c != '[' && c != '\\'

set_option maxRecDepth 100000 in
/-- The characters of the names are found by unification: a literal is the string of its
characters. -/
theorem exists_spelled_emojiNames : ∃ spelled, Spelled emojiNames spelled ∧
    (spelled.all fun chars => chars.all isUnmarked) = true := by
  constructor
  constructor
  case left =>
    unfold emojiNames
    dsimp only
    repeat apply Spelled.cons
    exact .nil
  case right => decide +kernel

theorem isUnmarked_of_mem_emojiNames {line : String} (h : line ∈ emojiNames) :
    ∀ c ∈ line.toList, isUnmarked c = true := by
  obtain ⟨spelled, hspelled, hall⟩ := exists_spelled_emojiNames
  obtain ⟨chars, hchars, heq⟩ := hspelled.exists_mem h
  rw [heq]
  exact List.all_eq_true.1 (List.all_eq_true.1 hall chars hchars)

theorem isUnmarked_of_emoji?_eq_some {name : String} {picture : List Char}
    (h : emoji? name = some picture) : ∀ c ∈ picture, isUnmarked c = true := by
  obtain ⟨line, hline, hfound⟩ := List.exists_of_findSome?_eq_some h
  obtain ⟨entry, hentry, hpicture⟩ := List.exists_of_findSome?_eq_some hfound
  split at hpicture
  · next key found hcut =>
    split at hpicture <;> cases hpicture
    have hmem : picture ∈ Text.cut ['='] entry := by simp [hcut]
    rw [Text.cut_singleton] at hentry hmem
    exact fun c hc => isUnmarked_of_mem_emojiNames hline c
      (Text.subset_of_mem_splitOn hentry (Text.subset_of_mem_splitOn hmem hc))
  · cases hpicture

end Names

/-! ## Texts with pictures -/

section Pictures

theorem eq_of_nameAt?_eq_some {name after : List Char} (h : nameAt? s = some (name, after)) :
    s = name ++ ':' :: after := by
  unfold nameAt? at h
  dsimp only at h
  split at h
  · next rest hrest =>
    cases h
    rw [← hrest, List.takeWhile_append_dropWhile]
  · cases h

theorem isUnmarked_of_withoutEnding {name ending key sign : List Char} {c : Char}
    (hc : isUnmarked c = true) (h : withoutEnding name ending c = some (key, sign)) :
    ∀ d ∈ sign, isUnmarked d = true := by
  unfold withoutEnding at h
  split at h <;> cases h
  exact List.forall_mem_singleton.2 hc

theorem isUnmarked_splitEnding (name : List Char) :
    ∀ c ∈ (splitEnding name).2, isUnmarked c = true := by
  unfold splitEnding
  cases hemoji : withoutEnding name "-emoji".toList '\ufe0f' with
  | some found => exact isUnmarked_of_withoutEnding (by decide) hemoji
  | none =>
    cases htext : withoutEnding name "-text".toList '\ufe0e' with
    | some found => exact isUnmarked_of_withoutEnding (by decide) htext
    | none => exact nofun

/-- A name is kept with its colons, or nothing of what stands for it has a meaning of its own. -/
theorem pictureOf_cases (name : List Char) :
    pictureOf name = ':' :: name ++ [':'] ∨ ∀ c ∈ pictureOf name, isUnmarked c = true := by
  unfold pictureOf
  dsimp only
  split
  · next picture hpicture =>
    exact .inr (List.forall_mem_append.2
      ⟨isUnmarked_of_emoji?_eq_some hpicture, isUnmarked_splitEnding name⟩)
  · exact .inl rfl

theorem count_eq_zero_of_isUnmarked {c : Char} (hc : isUnmarked c = false)
    (h : ∀ d ∈ s, isUnmarked d = true) : s.count c = 0 := by
  refine List.count_eq_zero.2 fun hmem => ?_
  rw [h c hmem] at hc
  cases hc

theorem pictureWithin_cons (fuel : Nat) (c : Char) (s : List Char) :
    pictureWithin (fuel + 1) (c :: s) = c :: pictureWithin fuel s ∨
      ∃ name after, c = ':' ∧ s = name ++ ':' :: after ∧
        pictureWithin (fuel + 1) (c :: s) = pictureOf name ++ pictureWithin fuel after := by
  rw [pictureWithin]
  split
  · next hc =>
    split
    · next name after hname => exact .inr ⟨name, after, hc, eq_of_nameAt?_eq_some hname, rfl⟩
    · exact .inl rfl
  · exact .inl rfl

/-- Characters that have a meaning do not become more. -/
theorem count_pictureWithin_le {c : Char} (hc : isUnmarked c = false) (fuel : Nat) (s : List Char) :
    (pictureWithin fuel s).count c ≤ s.count c := by
  induction fuel generalizing s with
  | zero => exact Nat.le_refl _
  | succ fuel ih =>
    cases s with
    | nil => exact Nat.le_refl _
    | cons d s =>
      rcases pictureWithin_cons fuel d s with h | ⟨name, after, rfl, rfl, h⟩
      · rw [h, List.count_cons, List.count_cons]
        exact Nat.add_le_add_right (ih s) _
      · have hafter := ih after
        rw [h, List.count_append]
        rcases pictureOf_cases name with hname | hname
        · rw [hname]
          simp only [List.count_cons, List.count_append, List.cons_append, List.count_nil]
          omega
        · rw [count_eq_zero_of_isUnmarked hc hname]
          simp only [List.count_cons, List.count_append]
          omega

/-- A picture takes the place of two colons. -/
theorem pictureWithin_eq_or_count_lt (fuel : Nat) (s : List Char) :
    pictureWithin fuel s = s ∨ (pictureWithin fuel s).count ':' < s.count ':' := by
  induction fuel generalizing s with
  | zero => exact .inl rfl
  | succ fuel ih =>
    cases s with
    | nil => exact .inl rfl
    | cons d s =>
      rcases pictureWithin_cons fuel d s with h | ⟨name, after, rfl, rfl, h⟩
      · rw [h]
        rcases ih s with hs | hs
        · exact .inl (congrArg (d :: ·) hs)
        · refine .inr ?_
          rw [List.count_cons, List.count_cons]
          exact Nat.add_lt_add_right hs _
      · rw [h]
        rcases pictureOf_cases name with hname | hname
        · rw [hname]
          rcases ih after with hafter | hafter
          · refine .inl ?_
            rw [hafter]
            simp
          · refine .inr ?_
            simp only [List.count_cons, List.count_append, List.cons_append, List.count_nil]
            omega
        · refine .inr ?_
          have hafter := count_pictureWithin_le (c := ':') (by decide) fuel after
          rw [List.count_append, count_eq_zero_of_isUnmarked (by decide) hname]
          simp only [List.count_cons, List.count_append, BEq.rfl, if_true]
          omega

theorem withPictures_eq_or_count_lt (s : List Char) :
    withPictures s = s ∨ (withPictures s).count ':' < s.count ':' :=
  pictureWithin_eq_or_count_lt _ s

theorem count_withPictures_le {c : Char} (hc : isUnmarked c = false) (s : List Char) :
    (withPictures s).count c ≤ s.count c :=
  count_pictureWithin_le hc _ s

end Pictures

end ScriptReplay.Console
