import ScriptGateway.Proofs.Specifier.Nesting

/-!
# Running the scripts of specifiers

The script of a specifier binds each of its variables to the object selected so far, whatever the
variables held before (`get?_runAll_bindings`). Of several scripts that run one after the other, the
last one that binds a variable decides on its value (`get?_runAll_flatMap`), so that a reference
keeps its meaning exactly when that one binds the variable at its end to the same object
(`evaluate_last_iff`).

Two scripts bind no common variable exactly when their stems and lengths are `Apart`
(`disjoint_names_iff`).
-/

set_option autoImplicit false

namespace ScriptGateway.Specifier

open Script (IsWord evaluate runAll)

/-! ## One script -/

theorem nestFront_cons (p : String) (ps : List String) :
    nestFront (p :: ps) = nestFront ps ++ p ++ " of" ++ " " := by
  have hof : " of " = " of" ++ " " := rfl
  rw [nestFront, hof]
  simp only [String.append_assoc]

/-- Phrases read of a variable are, evaluated, read of its value. -/
theorem evaluate_nest {σ : Script.Values} {v : String} (hv : IsWord v) (ps : List String) :
    evaluate σ (nest v ps) = nest ((σ.get? v).getD v) ps := by
  cases ps with
  | nil => exact Script.evaluate_word hv
  | cons p ps =>
    rw [nest_eq_append, nest_eq_append, nestFront_cons, Script.evaluate_append _ hv]

theorem isWord_root : IsWord rootExpression := Script.isWord_of_all (by decide +kernel)

/-- The induction follows the bindings; the variable read by each is the one bound before it. -/
theorem get?_runAll_bindFrom {σ : Script.Values} {stem whole : String} {n k : Nat}
    {ps : List String} (hw : IsWord stem) (hn : σ.get? (variableName stem n) = some whole) (hk : k ≤ ps.length) :
    (runAll σ (bindFrom stem n ps)).get? (variableName stem (n + k)) =
      some (nest whole (ps.take k)) := by
  induction ps generalizing σ n k whole with
  | nil =>
    obtain rfl : k = 0 := Nat.le_zero.1 hk
    exact hn
  | cons p ps ih =>
    cases k with
    | zero =>
      have hnot : variableName stem n ∉ (bindFrom stem n (p :: ps)).map (·.name) := by
        rw [names_bindFrom]
        intro hmem
        obtain ⟨m, hm, hv⟩ := List.mem_map.1 hmem
        have hle := (List.mem_range'_1.1 hm).1
        have := variableName_inj hv
        omega
      rw [Nat.add_zero, Script.runAll_frame hnot, hn]
      rfl
    | succ k =>
      let b : Script.Binding :=
        ⟨variableName stem (n + 1), nest (variableName stem n) [p]⟩
      have hnext : (b.run σ).get? (variableName stem (n + 1)) = some (ofWhole p whole) := by
        rw [Script.get?_run, if_pos rfl, evaluate_nest (variableName_isWord hw n), hn]
        rfl
      have hrest := ih hnext (Nat.le_of_succ_le_succ hk)
      have hadd : n + (k + 1) = n + 1 + k := by omega
      rw [hadd]
      exact hrest

/-- The object that variable `k` is bound to. -/
def object (s : Specifier) (k : Nat) : String := nest rootExpression ((boundPhrases s.steps).take k)

/-- **The script of a specifier** binds its variables to its objects whatever the
variables hold, as long as the root is none of them. -/
theorem get?_runAll_bindings {σ : Script.Values} {s : Specifier} {k : Nat} (hw : IsWord s.stem)
    (hroot : σ.get? rootExpression = none) (hk : k < s.bindings.length) :
    (runAll σ s.bindings).get? (variableName s.stem k) = some (s.object k) := by
  let b : Script.Binding := ⟨variableName s.stem 0, rootExpression⟩
  have hfirst : (b.run σ).get? (variableName s.stem 0) = some rootExpression := by
    rw [Script.get?_run, if_pos rfl, Script.evaluate_word isWord_root, hroot]
    rfl
  rw [length_bindings] at hk
  have hrest := get?_runAll_bindFrom hw hfirst (Nat.le_of_lt_succ hk)
  rw [Nat.zero_add] at hrest
  exact hrest

theorem nest_inj {whole whole' : String} {ps : List String} :
    nest whole ps = nest whole' ps ↔ whole = whole' := by
  constructor
  · intro h
    rw [nest_eq_append, nest_eq_append] at h
    have hl := congrArg String.toList h
    rw [String.toList_append, String.toList_append, List.append_cancel_left_eq] at hl
    exact String.toList_inj.1 hl
  · rintro rfl
    rfl

/-- A reference means what the specifier means if its variable holds the last object of the
specifier, and only then. -/
theorem evaluate_reference_iff {σ : Script.Values} {s : Specifier} {x : String}
    (hw : IsWord s.stem)
    (hphrases : phrases s.steps = boundPhrases s.steps ++ readPhrases s.steps)
    (hcurrent : σ.get? s.current = some x) :
    evaluate σ s.reference = s.nested ↔ x = s.object (boundPhrases s.steps).length := by
  have hword : IsWord s.current := variableName_isWord hw _
  have hnested :
      s.nested = nest (s.object (boundPhrases s.steps).length) (readPhrases s.steps) := by
    rw [object, List.take_length, ← nest_append, ← hphrases]
    rfl
  rw [reference_eq_nest, evaluate_nest hword, hcurrent, Option.getD_some, hnested, nest_inj]

/-! ## Scripts one after the other -/

theorem mem_names {s : Specifier} {v : String} :
    v ∈ s.names ↔ ∃ k < s.bindings.length, variableName s.stem k = v := by
  simp [names]

theorem root_notMem_names (s : Specifier) : rootExpression ∉ s.names := by
  intro h
  obtain ⟨k, -, hk⟩ := mem_names.1 h
  exact variableName_ne_root s.stem k hk

theorem map_name_flatMap (l : List Specifier) :
    (l.flatMap (·.bindings)).map (·.name) = l.flatMap names := by
  simp only [List.map_flatMap, names_bindings]

theorem isWord_of_mem_flatMap {l : List Specifier} (hw : ∀ s ∈ l, IsWord s.stem) :
    ∀ b ∈ l.flatMap (·.bindings), IsWord b.name := by
  intro b hb
  obtain ⟨s, hs, hbs⟩ := List.mem_flatMap.1 hb
  have hname : b.name ∈ s.names := s.names_bindings ▸ List.mem_map_of_mem hbs
  obtain ⟨k, -, hk⟩ := mem_names.1 hname
  rw [← hk]
  exact variableName_isWord (hw s hs) k

/-- A variable has the value that the last script gives it by which it is bound. -/
theorem get?_runAll_flatMap {σ : Script.Values} {before after : List Specifier} {s : Specifier}
    {k : Nat} (hw : IsWord s.stem) (hroot : σ.get? rootExpression = none) (hk : k < s.bindings.length)
    (hafter : ∀ s' ∈ after, variableName s.stem k ∉ s'.names) :
    (runAll σ ((before ++ s :: after).flatMap (·.bindings))).get? (variableName s.stem k) =
      some (s.object k) := by
  have hrun : runAll σ ((before ++ s :: after).flatMap (·.bindings)) =
      runAll (runAll (runAll σ (before.flatMap (·.bindings))) s.bindings)
        (after.flatMap (·.bindings)) := by
    rw [List.flatMap_append, List.flatMap_cons, Script.runAll_append, Script.runAll_append]
  have hlater : variableName s.stem k ∉ (after.flatMap (·.bindings)).map (·.name) := by
    rw [map_name_flatMap, List.mem_flatMap]
    rintro ⟨s', hs', hv⟩
    exact hafter s' hs' hv
  have hearlier : rootExpression ∉ (before.flatMap (·.bindings)).map (·.name) := by
    rw [map_name_flatMap, List.mem_flatMap]
    rintro ⟨s', -, hv⟩
    exact root_notMem_names s' hv
  rw [hrun, Script.runAll_frame hlater]
  exact get?_runAll_bindings hw (by rw [Script.runAll_frame hearlier, hroot]) hk

/-- **What a reference means after several scripts**: `s'` is the last of them that binds the
variable at the end of the reference, and the reference means what its specifier means exactly when
`s'` binds the variable to the same object. -/
theorem evaluate_last_iff {σ : Script.Values} {before after : List Specifier} {s s' : Specifier}
    {k : Nat} (hw : IsWord s.stem) (hw' : IsWord s'.stem) (hroot : σ.get? rootExpression = none)
    (hphrases : phrases s.steps = boundPhrases s.steps ++ readPhrases s.steps)
    (hk : k < s'.bindings.length) (hbinds : variableName s'.stem k = s.current)
    (hafter : ∀ u ∈ after, s.current ∉ u.names) :
    evaluate (runAll σ ((before ++ s' :: after).flatMap (·.bindings))) s.reference = s.nested ↔
      s'.object k = s.object (boundPhrases s.steps).length := by
  rw [← hbinds] at hafter
  have hvalue := @get?_runAll_flatMap σ before after s' k hw' hroot hk hafter
  rw [hbinds] at hvalue
  exact evaluate_reference_iff hw hphrases hvalue

/-! ## Scripts without common variables -/

/-- The stems differ, and if one of them is the other one followed by a number, the script of the
shorter stem is too short for its counter to get there. -/
def Apart (s s' : Specifier) : Prop :=
  s.stem ≠ s'.stem ∧
    (∀ d, 0 < d → s'.stem = s.stem ++ toString d → s.bindings.length ≤ 10 * d) ∧
    ∀ d, 0 < d → s.stem = s'.stem ++ toString d → s'.bindings.length ≤ 10 * d

theorem bindings_length_pos (s : Specifier) : 0 < s.bindings.length := by
  rw [length_bindings]
  omega

theorem disjoint_names_iff (s s' : Specifier) : List.Disjoint s.names s'.names ↔ s.Apart s' := by
  have hmeet := @variableName_meet_iff s.stem s'.stem _ _ s.bindings_length_pos
    s'.bindings_length_pos
  have hcommon : (∃ v, v ∈ s.names ∧ v ∈ s'.names) ↔
      ∃ a < s.bindings.length, ∃ b < s'.bindings.length,
        variableName s.stem a = variableName s'.stem b := by
    constructor
    · rintro ⟨v, hv, hv'⟩
      obtain ⟨a, ha, rfl⟩ := mem_names.1 hv
      obtain ⟨b, hb, hab⟩ := mem_names.1 hv'
      exact ⟨a, ha, b, hb, hab.symm⟩
    · rintro ⟨a, ha, b, hb, hab⟩
      exact ⟨_, mem_names.2 ⟨a, ha, rfl⟩, mem_names.2 ⟨b, hb, hab.symm⟩⟩
  constructor
  · intro hd
    have hno : ¬ ∃ v, v ∈ s.names ∧ v ∈ s'.names := fun ⟨v, hv, hv'⟩ => hd hv hv'
    rw [hcommon, hmeet, not_or, not_or] at hno
    obtain ⟨hne, hfst, hsnd⟩ := hno
    refine ⟨hne, fun d hd heq => ?_, fun d hd heq => ?_⟩
    · exact Nat.le_of_not_lt fun hlt => hfst ⟨d, hd, heq, hlt⟩
    · exact Nat.le_of_not_lt fun hlt => hsnd ⟨d, hd, heq, hlt⟩
  · rintro ⟨hne, hfst, hsnd⟩ v hv hv'
    rcases hmeet.1 (hcommon.1 ⟨v, hv, hv'⟩) with heq | ⟨d, hd, heq, hlt⟩ | ⟨d, hd, heq, hlt⟩
    · exact hne heq
    · have := hfst d hd heq
      omega
    · have := hsnd d hd heq
      omega

end ScriptGateway.Specifier
