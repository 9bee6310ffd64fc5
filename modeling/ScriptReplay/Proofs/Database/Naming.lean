import ScriptReplay.Database
import ScriptReplay.Proofs.Text.LowerCase
import ScriptReplay.Proofs.Text.Similarity

/-!
# Names of database systems

A system is found under each of its names, however the name is spelled (`Respelling`): in capital or
small letters, with white space around it or without. What is suggested in place of a name that no
system has is a name that one has. `resolve_of_respelling` says so of every name, and says it of
every lower-case form that a name may have.
-/

namespace ScriptReplay.Database

variable {name other : String} {s t : List Char}

/-! ## Names in the form in which they are looked up -/

theorem lookup?_of_mem_aliases : ∀ known ∈ aliases, lookup? known.1 = some known.2 := by decide

theorem lookup?_name (database : Database) : lookup? database.name = some database := by
  cases database <;> decide

/-- A name in small letters stands for the system that has it as its name or as another common
name. -/
theorem lookup?_eq_some_iff {database : Database} :
    lookup? name = some database ↔ name = database.name ∨ (name, database) ∈ aliases := by
  constructor
  · intro h
    unfold lookup? at h
    split at h
    · next found hfound =>
      cases h
      obtain ⟨before, after, haliases, -⟩ := List.lookup_eq_some_iff.1 hfound
      exact .inr (by rw [haliases]; simp)
    · have hfound := List.find?_some (p := fun known : Database => known.name == name) h
      exact .inl (beq_iff_eq.1 hfound).symm
  · rintro (rfl | hmem)
    · exact lookup?_name database
    · exact lookup?_of_mem_aliases _ hmem

theorem resolve_eq_ok_iff {database : Database} :
    resolve name = .ok database ↔ lookup? (normalize name) = some database := by
  unfold resolve
  split
  · next found hfound => rw [hfound, Except.ok.injEq, Option.some.injEq]
  · next hnone => simp [hnone]

theorem resolve_eq_error_iff {report : Report} :
    resolve name = .error report ↔
      lookup? (normalize name) = none ∧ report = unknownReport name := by
  unfold resolve
  split
  · next found hfound => simp [hfound]
  · next hnone => simp [hnone, eq_comm]

/-! ## Other spellings of a name -/

/-- How a name may be spelled in another way: ASCII letters in another case, white space put around
it or taken away there, one after another. -/
inductive Respelling : List Char → List Char → Prop
  | recased {s t : List Char} (h : Text.SameLetters s t) : Respelling s t
  | padded (before after : List Char) {s : List Char}
      (hbefore : ∀ c ∈ before, Text.isBlank c = true)
      (hafter : ∀ c ∈ after, Text.isBlank c = true) : Respelling s (before ++ s ++ after)
  | unpadded (before after : List Char) {s : List Char}
      (hbefore : ∀ c ∈ before, Text.isBlank c = true)
      (hafter : ∀ c ∈ after, Text.isBlank c = true) : Respelling (before ++ s ++ after) s
  | trans {s t u : List Char} (h : Respelling s t) (h' : Respelling t u) : Respelling s u

theorem Respelling.trim_lower_eq (h : Respelling s t) :
    Text.trim Text.isBlank (Text.lower s) = Text.trim Text.isBlank (Text.lower t) := by
  induction h with
  | recased h => rw [Text.lower_eq_of_sameLetters h]
  | padded before after hbefore hafter => exact (Text.trim_lower_append hbefore hafter).symm
  | unpadded before after hbefore hafter => exact Text.trim_lower_append hbefore hafter
  | trans _ _ ih ih' => exact ih.trans ih'

theorem normalize_eq_of_respelling (h : Respelling name.toList other.toList) :
    normalize name = normalize other := by
  unfold normalize Text.strip
  rw [String.toList_ofList, String.toList_ofList, h.trim_lower_eq]

/-! ## Every lower-case form of a name -/

theorem spares_plainSigma_of_mem_candidates :
    ∀ candidate ∈ candidates, Text.Spares Text.plainSigma candidate.toList := by
  have hascii : ∀ candidate ∈ candidates, candidate.toList.all (·.toNat < 0x80) = true := by decide
  intro candidate hcandidate c hc d
  have hc : c.toNat < 0x80 :=
    of_decide_eq_true (List.all_eq_true.1 (hascii candidate hcandidate) c hc)
  exact Text.plainSigma_eq_iff hc

theorem name_mem_candidates (database : Database) : database.name ∈ candidates := by
  cases database <;> decide

theorem fst_mem_candidates {known : String × Database} (h : known ∈ aliases) :
    known.1 ∈ candidates :=
  List.mem_append_right _ (List.mem_map_of_mem h)

/-- Words that differ only in which small sigma stands where are the same candidate or none. -/
theorem eq_iff_of_map_plainSigma {candidate : String} (hcandidate : candidate ∈ candidates)
    (hsame : name.toList.map Text.plainSigma = other.toList.map Text.plainSigma) :
    name = candidate ↔ other = candidate := by
  have hspares := spares_plainSigma_of_mem_candidates candidate hcandidate
  rw [← String.toList_inj, ← String.toList_inj, ← hspares.map_eq_iff, hsame, hspares.map_eq_iff]

theorem map_plainSigma_normalize {low : String} (h : Text.IsLower name.toList low.toList) :
    (Text.strip low).toList.map Text.plainSigma = (normalize name).toList.map Text.plainSigma := by
  unfold normalize Text.strip
  rw [String.toList_ofList, String.toList_ofList, String.toList_ofList,
    ← Text.trim_map Text.isBlank_plainSigma, ← Text.trim_map Text.isBlank_plainSigma,
    h.map_plainSigma]

/-- Whichever small sigmas stand in a lower-case form of a name, the same system is found. -/
theorem lookup?_of_isLower {low : String} (h : Text.IsLower name.toList low.toList) :
    lookup? (Text.strip low) = lookup? (normalize name) := by
  have hsame := map_plainSigma_normalize h
  refine Option.ext fun database => ?_
  have hname := eq_iff_of_map_plainSigma (name_mem_candidates database) hsame
  have hother : (Text.strip low, database) ∈ aliases ↔ (normalize name, database) ∈ aliases := by
    constructor
    · intro hmem
      have heq : normalize name = Text.strip low :=
        (eq_iff_of_map_plainSigma (fst_mem_candidates hmem) hsame).1 rfl
      rwa [heq]
    · intro hmem
      have heq : Text.strip low = normalize name :=
        (eq_iff_of_map_plainSigma (fst_mem_candidates hmem) hsame).2 rfl
      rwa [heq]
  rw [lookup?_eq_some_iff, lookup?_eq_some_iff, hname, hother]

/-- Whichever small sigmas stand in a lower-case form of a name, the same names are suggested. -/
theorem suggestions_of_isLower {low : String} (h : Text.IsLower name.toList low.toList) :
    Text.suggestions (Text.strip low) candidates = suggestions name :=
  Text.suggestions_congr spares_plainSigma_of_mem_candidates (map_plainSigma_normalize h)

/-! ## What is suggested -/

theorem exists_resolve_of_mem_candidates :
    ∀ candidate ∈ candidates, ∃ database, resolve candidate = .ok database := by
  have hall : ∀ candidate ∈ candidates, (lookup? (normalize candidate)).isSome = true := by decide
  intro candidate hcandidate
  obtain ⟨database, hfound⟩ := Option.isSome_iff_exists.1 (hall candidate hcandidate)
  exact ⟨database, resolve_eq_ok_iff.2 hfound⟩

theorem nodup_candidates : candidates.Nodup := by decide

/-- However a name is spelled, the same system is found or the same names are suggested. A system is
found exactly where the name in small letters, in any lower-case form of it and without white space
around it, is the system's name or another of its common names; and what is suggested depends on
nothing else. Where no system is found, the settings are reported to make no sense, with at most
three suggestions, all different, each a name under which a system is found. -/
theorem resolve_of_respelling (name other : String) (h : Respelling name.toList other.toList) :
    ((∃ database, resolve name = .ok database ∧ resolve other = .ok database) ∨
        resolve name = .error (unknownReport name) ∧
          resolve other = .error (unknownReport other) ∧ suggestions name = suggestions other) ∧
      (∀ low : String, Text.IsLower name.toList low.toList →
        (∀ database, resolve name = .ok database ↔
          Text.strip low = database.name ∨ (Text.strip low, database) ∈ aliases) ∧
        Text.suggestions (Text.strip low) candidates = suggestions name) ∧
      ∀ report, resolve name = .error report →
        report.subject = .configuration ∧ (suggestions name).length ≤ 3 ∧
          (suggestions name).Nodup ∧
          ∀ hint ∈ suggestions name, ∃ database, resolve hint = .ok database := by
  have hnormal := normalize_eq_of_respelling h
  refine ⟨?_, fun low hlow => ⟨fun database => ?_, suggestions_of_isLower hlow⟩,
    fun report hreport => ⟨?_, Text.length_suggestions_le _ _, ?_, fun hint hhint => ?_⟩⟩
  · cases hfound : lookup? (normalize name) with
    | some database =>
      exact .inl ⟨database, resolve_eq_ok_iff.2 hfound,
        resolve_eq_ok_iff.2 (hnormal ▸ hfound)⟩
    | none =>
      refine .inr ⟨resolve_eq_error_iff.2 ⟨hfound, rfl⟩,
        resolve_eq_error_iff.2 ⟨hnormal ▸ hfound, rfl⟩, ?_⟩
      unfold suggestions
      rw [hnormal]
  · rw [resolve_eq_ok_iff, ← lookup?_of_isLower hlow, lookup?_eq_some_iff]
  · rw [(resolve_eq_error_iff.1 hreport).2]
    rfl
  · exact Text.nodup_suggestions nodup_candidates _
  · exact exists_resolve_of_mem_candidates hint
      ((Text.suggestions_subperm _ _).subset hhint)

/-- A name that ends with a capital sigma, whose small letter there is not the one within a word. -/
theorem resolve_of_respelling_sigma :
    Respelling "POSTGREΣ".toList "\u00a0PostgreΣ\t".toList ∧
      Text.IsLower "POSTGREΣ".toList "postgreς".toList ∧
      (∃ report, resolve "POSTGREΣ" = .error report) ∧
      Text.suggestions "postgreς" candidates = suggestions "\u00a0PostgreΣ\t" ∧
      ∀ hint ∈ suggestions "POSTGREΣ", ∃ database, resolve hint = .ok database := by
  have hrespelled : Respelling "POSTGREΣ".toList "\u00a0PostgreΣ\t".toList :=
    .trans (.recased (t := "PostgreΣ".toList) (by decide))
      (.padded ['\u00a0'] ['\t'] (List.forall_mem_singleton.2 rfl)
        (List.forall_mem_singleton.2 rfl))
  have hlower : Text.IsLower "POSTGREΣ".toList "postgreς".toList := by
    have hword : Text.lower "POSTGRE".toList = "postgre".toList := by decide +kernel
    have hlast := Text.isLower_concat_sigma "POSTGRE".toList
    rw [hword] at hlast
    exact hlast
  have hunknown : lookup? (normalize "POSTGREΣ") = none := by decide +kernel
  have herror : resolve "POSTGREΣ" = .error (unknownReport "POSTGREΣ") :=
    resolve_eq_error_iff.2 ⟨hunknown, rfl⟩
  obtain ⟨hcases, hlow, hreported⟩ :=
    resolve_of_respelling "POSTGREΣ" "\u00a0PostgreΣ\t" hrespelled
  refine ⟨hrespelled, hlower, ⟨_, herror⟩, ?_, (hreported _ herror).2.2.2⟩
  rcases hcases with ⟨database, hfound, -⟩ | ⟨-, -, hsame⟩
  · rw [herror] at hfound
    cases hfound
  · exact (hlow "postgreς" hlower).2.trans hsame

end ScriptReplay.Database
