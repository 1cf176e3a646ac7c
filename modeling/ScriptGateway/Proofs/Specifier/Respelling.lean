import ScriptGateway.Proofs.Specifier.Prefixes

/-!
# Other spellings of a path

A name is looked up by its key and an element by its number, so a path means the same however these
are written: whatever other spellings are put in for its segments (`Respells`), it is followed to
the same objects by the same script (`resolve_respelled`). A name in a collection has one spelling
only, and so has a property that is read across a collection, since it is tried as a number and as a
quoted name first.

The other path takes the same steps but for the segments that they record. What is read off a chain
does not look at these, which `Step.unspelled` leaves out.
-/

set_option autoImplicit false

namespace ScriptGateway

/-! ## Spellings -/

namespace Path

/-- The segments have the same key, and the second can stand in a path. -/
def SameName (segment text : String) : Prop :=
  Key.of text = Key.of segment ∧ Text.blank text = false ∧ '/' ∉ text.toList

instance (segment text : String) : Decidable (SameName segment text) :=
  inferInstanceAs (Decidable (_ ∧ _))

/-- The text without a plus sign at its front. -/
def unsigned : List Char → List Char
  | '+' :: cs => cs
  | cs => cs

/-- The text is a numeral with the value `n`: digits of any script, no more than are converted, with
a plus sign before them or without. -/
def Counts (text : String) (n : Nat) : Prop :=
  unsigned text.toList ≠ [] ∧ (unsigned text.toList).all Text.isDigit = true ∧
    (unsigned text.toList).length ≤ Text.maxDigits ∧
    Text.digitsValue (unsigned text.toList) = n

instance (text : String) (n : Nat) : Decidable (Counts text n) :=
  inferInstanceAs (Decidable (_ ∧ _))

end Path

/-- The text selects in the same way as the segment, where it is not the segment itself; `opened`
tells that the step before has opened a collection. -/
def Selection.Admits (opened : Bool) (segment text : String) : Selection → Prop
  | .collection | .objectProperty _ => Path.SameName segment text
  | .property _ => opened = false ∧ Path.SameName segment text
  | .index n => Path.Counts text n
  | .name _ => False

instance (opened : Bool) (segment text : String) :
    (x : Selection) → Decidable (x.Admits opened segment text)
  | .collection | .objectProperty _ => inferInstanceAs (Decidable (Path.SameName _ _))
  | .property _ => inferInstanceAs (Decidable (_ ∧ _))
  | .index n => inferInstanceAs (Decidable (Path.Counts _ n))
  | .name _ => inferInstanceAs (Decidable False)

/-- The text can be put in for the segment of the step. -/
def Step.SpelledBy (s : Step) (opened : Bool) (text : String) : Prop :=
  text = s.segment ∨ s.selection.Admits opened s.segment text

instance (s : Step) (opened : Bool) (text : String) : Decidable (s.SpelledBy opened text) :=
  inferInstanceAs (Decidable (_ ∨ _))

/-- The texts can be put in for the segments of the steps. -/
inductive Respells : (opened : Bool) → List Step → List String → Prop
  | nil {opened : Bool} : Respells opened [] []
  | cons {opened : Bool} {s : Step} {text : String} {steps : List Step} {texts : List String} :
      s.SpelledBy opened text → Respells s.isCollection steps texts →
      Respells opened (s :: steps) (text :: texts)

theorem respells_cons_iff {opened : Bool} {s : Step} {text : String} {steps : List Step}
    {texts : List String} : Respells opened (s :: steps) (text :: texts) ↔
      s.SpelledBy opened text ∧ Respells s.isCollection steps texts := by
  constructor
  · rintro (_ | ⟨hs, hmore⟩)
    exact ⟨hs, hmore⟩
  · rintro ⟨hs, hmore⟩
    exact .cons hs hmore

instance decidableRespells : (opened : Bool) → (steps : List Step) → (texts : List String) →
    Decidable (Respells opened steps texts)
  | _, [], [] => isTrue .nil
  | _, [], _ :: _ => isFalse nofun
  | _, _ :: _, [] => isFalse nofun
  | _, s :: steps, _ :: texts =>
    have := decidableRespells s.isCollection steps texts
    decidable_of_iff _ respells_cons_iff.symm

/-! ## Reading other spellings -/

theorem ClassInfo.property?_congr {c : ClassInfo} {a b : String} (h : Key.of a = Key.of b) :
    c.property? a = c.property? b := by
  rw [property?, property?, h]

theorem ClassTable.elementClass?_congr {t : ClassTable} {c : ClassInfo} {a b : String}
    (h : Key.of a = Key.of b) : t.elementClass? c a = t.elementClass? c b := by
  rw [elementClass?, elementClass?, h]

namespace Path

variable {text : String} {n : Nat}

theorem exists_sign (cs : List Char) : ∃ sign ∈ [[], ['+']], cs = sign ++ unsigned cs := by
  unfold unsigned
  split
  · exact ⟨['+'], by simp, rfl⟩
  · exact ⟨[], by simp, rfl⟩

theorem index?_of_counts (h : Counts text n) : index? text = .ok (some n) := by
  obtain ⟨hne, hall, hlong, hvalue⟩ := h
  have hdigits := List.all_eq_true.1 hall
  obtain ⟨sign, hsign, htext⟩ := exists_sign text.toList
  generalize unsigned text.toList = digits at *
  have hline : Text.dropFinalNewline text.toList = text.toList := by
    refine Text.dropFinalNewline_of_ne fun hlast => ?_
    rw [htext, List.getLast?_append_of_ne_nil sign hne] at hlast
    exact Text.ne_of_isDigit (hdigits _ (List.mem_of_getLast? hlast)) (by decide) rfl
  have hnumeral : Text.Numeral.ofChars? text.toList = some ⟨false, digits⟩ :=
    Text.Numeral.ofChars?_eq_some_iff.2 ⟨hne, hdigits, sign, hsign, htext⟩
  rw [index?, hline, hnumeral]
  simp [Text.Numeral.value, Nat.not_lt.2 hlong, Except.map, hvalue]

theorem Counts.blank_eq (h : Counts text n) : Text.blank text = false := by
  obtain ⟨hne, hall, -⟩ := h
  obtain ⟨sign, -, htext⟩ := exists_sign text.toList
  obtain ⟨c, cs, hcs⟩ := List.exists_cons_of_ne_nil hne
  have hc : c ∈ text.toList := by
    rw [htext, hcs]
    simp
  exact blank_of_isDigit hc (List.all_eq_true.1 hall c (by simp [hcs]))

theorem Counts.slash_notMem (h : Counts text n) : '/' ∉ text.toList := by
  obtain ⟨sign, hsign, htext⟩ := exists_sign text.toList
  have hplain : '/' ∉ unsigned text.toList := fun hslash =>
    Text.ne_of_isDigit (List.all_eq_true.1 h.2.1 _ hslash) (by decide) rfl
  rw [htext, List.mem_append, not_or]
  refine ⟨?_, hplain⟩
  rcases (by simpa using hsign : sign = [] ∨ sign = ['+']) with rfl | rfl
  · simp
  · simp

end Path

theorem Selection.Admits.slash_notMem {opened : Bool} {segment text : String} {x : Selection}
    (h : x.Admits opened segment text) : '/' ∉ text.toList := by
  cases x with
  | collection | objectProperty => exact h.2.2
  | property => exact h.2.2.2
  | index => exact Path.Counts.slash_notMem h
  | name => exact h.elim

namespace Walk

variable {t : ClassTable} {current : ClassInfo} {pending isLast : Bool} {segment text : String}
  {s : Step}

/-- Another spelling makes the same step, but for the segment. -/
theorem Move.respelled (h : Move t current pending segment isLast s)
    (hs : s.SpelledBy pending text) :
    Move t current pending text isLast { s with segment := text } := by
  rcases hs with rfl | hs
  · rw [← h.segment_eq] at h
    exact h
  · cases h with
    | @index _ _ n _ _ hn =>
      have hcounts : Path.Counts text n.toNat := hs
      have hcast : ((n.toNat : Nat) : Int) = n := Int.toNat_of_nonneg (by omega)
      have hindex := Path.index?_of_counts hcounts
      rw [hcast] at hindex
      exact .index hcounts.blank_eq hindex hn
    | quoted => exact hs.elim
    | bare => exact hs.elim
    | across => exact absurd hs.1 (by decide)
    | property _ hp =>
      obtain ⟨-, hkey, hb, -⟩ := hs
      exact .property hb ((ClassInfo.property?_congr hkey).trans hp)
    | collection _ hp hc =>
      obtain ⟨hkey, hb, -⟩ := hs
      exact .collection hb (fun hlast => (ClassInfo.property?_congr hkey).trans (hp hlast))
        ((ClassTable.elementClass?_congr hkey).trans hc)
    | descend _ he hp hc =>
      obtain ⟨hkey, hb, -⟩ := hs
      exact .descend hb ((ClassTable.elementClass?_congr hkey).trans he)
        ((ClassInfo.property?_congr hkey).trans hp) hc

end Walk

/-! ## Chains without their segments -/

/-- The step without the segment it was read from. -/
def Step.unspelled (s : Step) : Step := { s with segment := "" }

@[simp] theorem Step.phrase_unspelled (s : Step) : s.unspelled.phrase = s.phrase := rfl

@[simp] theorem Step.narrows_unspelled (s : Step) : s.unspelled.narrows = s.narrows := rfl

namespace Specifier

theorem collectionBefore?_unspelled (steps : List Step) :
    collectionBefore? (steps.map Step.unspelled) = collectionBefore? steps := by
  rw [collectionBefore?_eq, collectionBefore?_eq, List.getLast?_map]
  cases steps.getLast? <;> rfl

theorem boundPhrases_unspelled (steps : List Step) :
    boundPhrases (steps.map Step.unspelled) = boundPhrases steps := by
  rw [boundPhrases_eq, boundPhrases_eq, collectionBefore?_unspelled, narrowing, List.filter_map,
    List.map_map]
  rfl

theorem getLast?_unspelled_property? (s : Specifier) :
    (s.steps.map Step.unspelled).getLast?.bind (·.property?) = s.property? := by
  have hlast : s.last? = s.steps.getLast? := rfl
  rw [property?, hlast, List.getLast?_map]
  cases s.steps.getLast? <;> rfl

theorem getLast?_unspelled_target (s : Specifier) :
    ((s.steps.map Step.unspelled).getLast?.map (·.target)).getD s.root = s.target := by
  have hlast : s.last? = s.steps.getLast? := rfl
  rw [target, hlast, List.getLast?_map]
  cases s.steps.getLast? <;> rfl

/-- What the steps record as expressions. -/
def recorded (s : Specifier) : List String := (expressions s.stem 0 s.steps).map (·.2)

theorem expressions_unspelled (stem : String) (n : Nat) (steps : List Step) :
    (expressions stem n (steps.map Step.unspelled)).map (·.2) =
      (expressions stem n steps).map (·.2) := by
  induction steps generalizing n with
  | nil => rfl
  | cons s rest ih =>
    cases hn : s.narrows with
    | true => simp [expressions, hn, ih]
    | false => simp [expressions, hn, ih]

/-- The specifiers say the same, but for the path and the segments that the chain records. -/
structure SameMeaning (s s' : Specifier) : Prop where
  statements : s'.statements = s.statements
  reference : s'.reference = s.reference
  target : s'.target = s.target
  property? : s'.property? = s.property?
  root : s'.root = s.root
  steps : s'.steps.map Step.unspelled = s.steps.map Step.unspelled
  recorded : s'.recorded = s.recorded

theorem sameMeaning_of_unspelled {s s' : Specifier} (hstem : s'.stem = s.stem)
    (hroot : s'.root = s.root)
    (h : s'.steps.map Step.unspelled = s.steps.map Step.unspelled) : s.SameMeaning s' := by
  have hbound : boundPhrases s'.steps = boundPhrases s.steps := by
    rw [← boundPhrases_unspelled, h, boundPhrases_unspelled]
  have hbefore : collectionBefore? s'.steps.dropLast = collectionBefore? s.steps.dropLast := by
    rw [← collectionBefore?_unspelled, List.map_dropLast, h, ← List.map_dropLast,
      collectionBefore?_unspelled]
  have hproperty : s'.property? = s.property? := by
    rw [← getLast?_unspelled_property?, h, getLast?_unspelled_property?]
  have htarget : s'.target = s.target := by
    rw [← getLast?_unspelled_target, h, hroot, getLast?_unspelled_target]
  have hcurrent : s'.current = s.current := by rw [current, current, hbound, hstem]
  refine ⟨?_, ?_, htarget, hproperty, hroot, h, ?_⟩
  · rw [statements, statements, bindings, bindings, hbound, hstem]
  · unfold reference subject isProperty
    rw [hproperty, hbefore, hcurrent]
  · rw [recorded, recorded, hstem, ← expressions_unspelled, h, expressions_unspelled]

end Specifier

/-! ## Whole paths -/

/-- Other spellings lead along the same steps, but for their segments. The induction follows the
walk; the number of segments stays, so that the same one is the last. -/
theorem Walk.Leads.respelled {t : ClassTable} {current : ClassInfo} {pending : Bool}
    {segments texts : List String} {steps : List Step}
    (h : Leads t current pending segments steps) (hr : Respells pending steps texts) :
    ∃ steps', Leads t current pending texts steps' ∧
      steps'.map Step.unspelled = steps.map Step.unspelled := by
  induction h generalizing texts with
  | here =>
    cases hr
    exact ⟨[], .here, rfl⟩
  | @next _ _ _ rest s more hm hrest ih =>
    obtain _ | ⟨hs, hmore⟩ := hr
    rename_i text texts
    obtain ⟨steps', hleads, hsteps⟩ := ih hmore
    have hend : rest.isEmpty = texts.isEmpty := by
      cases hrest with
      | here => cases hmore; rfl
      | next => cases hmore; rfl
    rw [hend] at hm
    exact ⟨_, .next (hm.respelled hs) hleads, by simp [hsteps, Step.unspelled]⟩

theorem Respells.slash_notMem {opened : Bool} {steps : List Step} {texts : List String}
    (h : Respells opened steps texts) (hsteps : ∀ x ∈ steps, '/' ∉ x.segment.toList) :
    ∀ text ∈ texts, '/' ∉ text.toList := by
  induction h with
  | nil => simp
  | @cons opened s text steps texts hs _ ih =>
    obtain ⟨hfirst, hrest⟩ := List.forall_mem_cons.1 hsteps
    refine List.forall_mem_cons.2 ⟨?_, ih hrest⟩
    rcases hs with rfl | hs
    · exact hfirst
    · exact hs.slash_notMem

/-- **Spelling does not change the meaning of a path**: when other spellings are put in for segments
of a path that is followed, the path along them, however it is written, is followed to the same
target, with the same script and the same chain except for the segments. -/
theorem resolve_respelled {r : ClassRegistry} {path stem : String} {s : Specifier}
    (h : resolve r path stem = .ok s) {texts : List String} (ht : Respells false s.steps texts) :
    Path.segments (Path.along texts) = texts ∧ ∀ path', Path.segments path' = texts →
      ∃ s', resolve r path' stem = .ok s' ∧ s'.steps.map (·.segment) = texts ∧
        s.SameMeaning s' := by
  obtain ⟨t, htable, hne, hroot, -, hstem, hleads⟩ := resolve_ok_iff.1 h
  obtain ⟨steps, hleads', hsteps⟩ := hleads.respelled ht
  have hslash : ∀ x ∈ s.steps, '/' ∉ x.segment.toList := by
    intro x hx
    have hmem : x.segment ∈ Path.segments path := by
      rw [← hleads.segments_eq]
      exact List.mem_map_of_mem hx
    exact Path.slash_notMem_of_mem_segments hmem
  refine ⟨Path.segments_along (ht.slash_notMem hslash) fun hlast => ?_, fun path' hpath' => ?_⟩
  · have hblank := hleads'.blank_eq "" (List.mem_of_getLast? hlast)
    exact absurd hblank (by decide)
  · have hne' : Path.segments path' ≠ [] := by
      intro hnil
      rw [← hpath', hnil] at hleads'
      cases hleads'
      have hlen := hleads.length_eq
      rw [List.map_eq_nil_iff.1 hsteps.symm] at hlen
      exact hne (List.length_eq_zero_iff.1 hlen.symm)
    refine ⟨⟨path', stem, s.root, steps⟩, resolve_ok_iff.2
      ⟨t, htable, hne', hroot, rfl, rfl, ?_⟩, hleads'.segments_eq, ?_⟩
    · rw [hpath']
      exact hleads'
    · exact Specifier.sameMeaning_of_unspelled hstem.symm rfl hsteps

/-- Capitals, underscores and hyphens in the names, and numbers with a sign, leading zeros and the
digits of other scripts. -/
theorem resolve_respelled_name_of_track :
    ∃ r s s', ClassRegistry.empty.load shelf [] = .ok r ∧
      resolve r "/playlists/2/parent/tracks/1/name" "obj" = .ok s ∧
      Respells false s.steps ["PLAYLISTS", "+٠2", "__parent-", " Tracks", "00１", "Name"] ∧
      resolve r "PLAYLISTS/+٠2/__parent-/ Tracks/00１/Name/" "obj" = .ok s' ∧
      s.SameMeaning s' := by
  have hfollowed : ((ClassRegistry.empty.load shelf []).toOption.bind fun r =>
      (resolve r "/playlists/2/parent/tracks/1/name" "obj").toOption.map fun s => decide (Respells
        false s.steps ["PLAYLISTS", "+٠2", "__parent-", " Tracks", "00１", "Name"])) =
      some true := by decide +kernel
  obtain ⟨r, hr, hfollowed⟩ := Option.bind_eq_some_iff.1 hfollowed
  obtain ⟨s, hs, hspelled⟩ := Option.map_eq_some_iff.1 hfollowed
  have hs := Outcome.toOption_eq_some.1 hs
  have hspelled := of_decide_eq_true hspelled
  obtain ⟨-, hall⟩ := resolve_respelled hs hspelled
  obtain ⟨s', hs', -, hsame⟩ :=
    hall "PLAYLISTS/+٠2/__parent-/ Tracks/00１/Name/" (by decide +kernel)
  exact ⟨r, s, s', Outcome.toOption_eq_some.1 hr, hs, hspelled, hs', hsame⟩

end ScriptGateway
