import ScriptGateway.Proofs.CommandLine.Reading

/-!
# The definition of a command line

The settings of a preview name the file that the last `--sdef` names, in plain form
(`Settings.definition_of_ofSources`). So a preview whose dictionary is found there is not kept from
being run (`firstHindrance_eq_none`).
-/

set_option autoImplicit false

namespace ScriptGateway

/-! ## Plain paths -/

theorem Text.mem_joinWith {sep part : String} {parts : List String} {c : Char}
    (hpart : part ∈ parts) (hc : c ∈ part.toList) : c ∈ (joinWith sep parts).toList := by
  induction parts with
  | nil => cases hpart
  | cons first parts ih =>
    cases parts with
    | nil =>
      obtain rfl := List.mem_singleton.1 hpart
      exact hc
    | cons second parts =>
      simp only [joinWith, String.toList_append, List.mem_append]
      rcases List.mem_cons.1 hpart with rfl | hmore
      · exact .inl (.inl hc)
      · exact .inr (ih hmore)

theorem Text.exists_mem_splitAt {sep c : Char} {cs : List Char} (hc : c ∈ cs) (hne : c ≠ sep) :
    ∃ piece ∈ splitAt sep cs, c ∈ piece := by
  induction cs with
  | nil => cases hc
  | cons d cs ih =>
    unfold splitAt
    split
    · rename_i hd
      rcases List.mem_cons.1 hc with rfl | hmore
      · exact absurd hd hne
      · obtain ⟨piece, hpiece, hmem⟩ := ih hmore
        exact ⟨piece, List.mem_cons_of_mem _ hpiece, hmem⟩
    · split
      · rename_i first pieces hsplit
        rcases List.mem_cons.1 hc with rfl | hmore
        · exact ⟨_, List.mem_cons_self, List.mem_cons_self⟩
        · obtain ⟨piece, hpiece, hmem⟩ := ih hmore
          rw [hsplit] at hpiece
          rcases List.mem_cons.1 hpiece with rfl | hrest
          · exact ⟨_, List.mem_cons_self, List.mem_cons_of_mem _ hmem⟩
          · exact ⟨piece, List.mem_cons_of_mem _ hrest, hmem⟩
      · rename_i hsplit
        exact absurd hsplit (splitAt_ne_nil sep cs)

/-- A path in its plain form has lost slashes and dots only. -/
theorem FilePath.mem_plain {path : String} {c : Char} (hc : c ∈ path.toList) (hslash : c ≠ '/')
    (hdot : c ≠ '.') : c ∈ (plain path).toList := by
  obtain ⟨piece, hpiece, hmem⟩ := Text.exists_mem_splitAt hc hslash
  have hempty : String.ofList piece ≠ "" := by
    intro h
    rw [String.ofList_eq_empty_iff.1 h] at hmem
    cases hmem
  have hstays : String.ofList piece ≠ "." := by
    intro h
    have hsingle := congrArg String.toList h
    rw [String.toList_ofList] at hsingle
    rw [hsingle] at hmem
    exact hdot (List.mem_singleton.1 hmem)
  have hpart : String.ofList piece ∈
      ((Text.splitAt '/' path.toList).map String.ofList).filter fun p => p ≠ "" && p ≠ "." :=
    List.mem_filter.2 ⟨List.mem_map.2 ⟨piece, hpiece, rfl⟩, by simp [hempty, hstays]⟩
  have hwhole : c ∈ (rootOf path.toList ++ Text.joinWith "/"
      (((Text.splitAt '/' path.toList).map String.ofList).filter fun p =>
        p ≠ "" && p ≠ ".")).toList := by
    rw [String.toList_append, List.mem_append]
    exact .inr (Text.mem_joinWith hpart (by rwa [String.toList_ofList]))
  unfold plain
  dsimp only
  split
  · rename_i hnothing
    rw [String.isEmpty_iff.1 hnothing] at hwhole
    cases hwhole
  · exact hwhole

/-! ## Settings -/

theorem Checked.apply_eq_ok {α β : Type} {f : Checked (α → β)} {x : Checked α} {b : β}
    (h : apply f x = .ok b) : ∃ g a, f = .ok g ∧ x = .ok a ∧ g a = b := by
  cases f with
  | error ms => cases x <;> cases h
  | ok g =>
    cases x with
    | error ms => cases h
    | ok a => exact ⟨g, a, rfl, rfl, Except.ok.inj h⟩

/-- The definition of the settings is the one that was given, even if the environment names
another. -/
theorem Settings.definition_of_ofSources {environment : Payload} {w : CommandLine.Words}
    {s : Settings}
    (h : ofSources environment (.object [("sdef_path", CommandLine.override w "--sdef")]) = .ok s) :
    s.definition = (w.last? "--sdef").map FilePath.plain := by
  obtain ⟨f₅, level, h₅, -, rfl⟩ := Checked.apply_eq_ok h
  obtain ⟨f₄, program, h₄, -, rfl⟩ := Checked.apply_eq_ok h₅
  obtain ⟨f₃, definition, h₃, hdefinition, rfl⟩ := Checked.apply_eq_ok h₄
  obtain ⟨f₂, application, h₂, -, rfl⟩ := Checked.apply_eq_ok h₃
  obtain ⟨f₁, port, h₁, -, rfl⟩ := Checked.apply_eq_ok h₂
  obtain ⟨f₀, host, h₀, -, rfl⟩ := Checked.apply_eq_ok h₁
  obtain rfl := Except.ok.inj h₀
  unfold CommandLine.override at hdefinition
  show definition = _
  cases hlast : w.last? "--sdef" with
  | none =>
    rw [hlast] at hdefinition
    exact (Except.ok.inj hdefinition).symm
  | some file =>
    rw [hlast] at hdefinition
    exact (Except.ok.inj hdefinition).symm

namespace CommandLine

/-- Where the dictionary is found, the file that is named for it is there. -/
theorem firstHindrance_eq_none {environment : Payload} {entry : Entry} {choices : List Choice}
    {target : String} {s : Settings} {d : Dictionary}
    (hs : Settings.ofSources environment
      (.object [("sdef_path", override (previewWords choices target) "--sdef")]) = .ok s)
    (hd : s.dictionary entry = .ok d) :
    firstHindrance entry (previewWords choices target) = none := by
  rw [firstHindrance, List.findSome?_eq_none_iff]
  intro option hoption
  obtain ⟨g, hg, rfl⟩ := List.mem_map.1 hoption
  obtain ⟨c, -, rfl⟩ := List.mem_map.1 hg
  unfold hindranceOf
  split
  · rfl
  · rename_i file hfile
    have hport : c.given.option ≠ Scope.port.name := c.option_given_ne (by decide)
    by_cases hdefinition : c.given.option = Scope.definition.name
    · -- the file that was checked is, in plain form, the one that the dictionary was read from
      rw [if_pos hdefinition]
      rw [hdefinition] at hfile
      have hplain := Settings.definition_of_ofSources hs
      rw [show (previewWords choices target).last? "--sdef" = some file from hfile] at hplain
      simp only [Settings.dictionary, hplain, Option.map_some, Dictionary.ofEntry] at hd
      split at hd
      · cases hd
      · rename_i hnull
        have hvalue : hasNull file = false := by
          rw [Bool.eq_false_iff]
          intro h
          refine hnull (List.contains_iff_mem.2 (FilePath.mem_plain ?_ (by decide) (by decide)))
          exact List.contains_iff_mem.1 h
        cases entry with
        | blocked o => cases hd
        | file bytes =>
          rw [hvalue]
          rfl
    · rw [if_neg hdefinition, if_neg hport]

end CommandLine

end ScriptGateway
