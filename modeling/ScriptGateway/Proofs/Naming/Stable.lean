import Mathlib.Data.List.Chain
import ScriptGateway.Command.Table
import ScriptGateway.Proofs.Naming.Parting
import ScriptGateway.Proofs.Text.Lowering
import ScriptGateway.Schema.Table

/-!
# Keys of keys

A key is written in one way only (`Naming.Normal`): no capitals, underscores and hyphens, and no
white space but single spaces inside. Whatever a text is, this is what its phrase looks like
(`Naming.normal_phrase`), and a text that looks like this and is low already is its own phrase
(`Naming.phrase_eq_self`). So the key of a key is that key. Main statement: `Key.of_text`.
-/

set_option autoImplicit false

namespace ScriptGateway

namespace Naming

open Text

/-! ## Single spaces -/

/-- No space stands beside another one. -/
def SingleSpaces (cs : List Char) : Prop := cs.IsChain fun a b => a = ' ' → b ≠ ' '

theorem isSeparator_space : isSeparator ' ' = true := by decide

theorem mem_joinRuns {within : Bool} {cs : List Char} {c : Char} (h : c ∈ joinRuns within cs) :
    c = ' ' ∨ c ∈ cs ∧ isSeparator c = false := by
  induction cs generalizing within with
  | nil => cases h
  | cons d cs ih =>
    have hrest : ∀ {within}, c ∈ joinRuns within cs →
        c = ' ' ∨ c ∈ d :: cs ∧ isSeparator c = false :=
      fun hc => (ih hc).imp_right (And.imp_left (List.mem_cons_of_mem d))
    unfold joinRuns at h
    split at h
    · split at h
      · exact hrest h
      · rcases List.mem_cons.1 h with rfl | h
        · exact .inl rfl
        · exact hrest h
    · rename_i hd
      rcases List.mem_cons.1 h with rfl | h
      · exact .inr ⟨List.mem_cons_self, by simpa using hd⟩
      · exact hrest h

/-- A run of separators is written as one space, which `a` may have been already. -/
theorem singleSpaces_joinRuns {within : Bool} {a : Char} (ha : a = ' ' → within = true)
    (cs : List Char) : SingleSpaces (a :: joinRuns within cs) := by
  induction cs generalizing within a with
  | nil => exact List.isChain_singleton _
  | cons c cs ih =>
    unfold joinRuns
    split
    · cases within with
      | true => exact ih fun _ => rfl
      | false =>
        have hne : a ≠ ' ' := fun h => by cases ha h
        exact List.isChain_cons_cons.2 ⟨fun h => absurd h hne, ih fun _ => rfl⟩
    · rename_i hc
      have hne : c ≠ ' ' := by
        rintro rfl
        exact hc isSeparator_space
      exact List.isChain_cons_cons.2 ⟨fun _ => hne, ih fun h => absurd h hne⟩

theorem SingleSpaces.trimmed {p : Char → Bool} {a : Char} {cs : List Char}
    (h : SingleSpaces (a :: cs)) : SingleSpaces (trimWhile p cs) := by
  obtain ⟨front, back, heq⟩ := trimWhile_within p cs
  have hcs := List.IsChain.tail h
  rw [← heq] at hcs
  exact hcs.left_of_append.right_of_append

/-- Where spaces are single and there is no other separator, nothing is joined. -/
theorem joinRuns_eq_self {within : Bool} {a : Char} {cs : List Char}
    (hseparator : ∀ c ∈ cs, isSeparator c = true → c = ' ') (hsingle : SingleSpaces (a :: cs))
    (ha : within = true → a = ' ') : joinRuns within cs = cs := by
  induction cs generalizing within a with
  | nil => rfl
  | cons c cs ih =>
    obtain ⟨hc, hcs⟩ := List.forall_mem_cons.1 hseparator
    obtain ⟨hbeside, hrest⟩ := List.isChain_cons_cons.1 hsingle
    unfold joinRuns
    split
    · rename_i hsep
      obtain rfl := hc hsep
      have hwithin : ¬ within = true := fun h => hbeside (ha h) rfl
      rw [if_neg hwithin, ih hcs hrest fun _ => rfl]
    · rw [ih hcs hrest fun h => by cases h]

/-! ## How a key is written -/

/-- No ASCII capital, no underscore, no hyphen, and no white space but single spaces between other
characters. -/
structure Normal (cs : List Char) : Prop where
  upper : ∀ c ∈ cs, isAsciiUpper c = false
  underscore : '_' ∉ cs
  hyphen : '-' ∉ cs
  blank : ∀ c ∈ cs, isBlank c = true → c = ' '
  single : SingleSpaces cs
  first : ∀ c, cs.head? = some c → isBlank c = false
  last : ∀ c, cs.getLast? = some c → isBlank c = false

theorem unhyphen_ne (c : Char) : unhyphen c ≠ '-' := by
  unfold unhyphen
  split
  · decide
  · rename_i hc
    exact hc

/-- What a character of a phrase can be. -/
theorem mem_phrase {cs : List Char} {c : Char} (h : c ∈ phrase cs) :
    IsLowered c ∧ c ≠ '-' ∧ (c = ' ' ∨ isSeparator c = false) := by
  have hspace : IsLowered ' ' ∧ ' ' ≠ '-' := by decide +kernel
  rcases mem_joinRuns (mem_of_mem_trimWhile h) with rfl | ⟨hmem, hplain⟩
  · exact ⟨hspace.1, hspace.2, .inl rfl⟩
  · obtain ⟨hlow, hkept⟩ := isLowered_of_mem_lowerAfter hmem
    refine ⟨hlow, ?_, .inr hplain⟩
    rintro rfl
    -- lowering makes no hyphen, and those that were there have become underscores
    rcases hkept with hmem | hbehind
    · obtain ⟨d, -, hd⟩ := List.mem_map.1 hmem
      exact unhyphen_ne d hd
    · exact absurd hbehind (by decide)

theorem normal_phrase (cs : List Char) : Normal (phrase cs) where
  upper _ hc := (mem_phrase hc).1.isAsciiUpper_eq
  underscore hmem := by
    rcases (mem_phrase hmem).2.2 with hspace | hplain
    · exact absurd hspace (by decide)
    · exact absurd hplain (by decide)
  hyphen hmem := (mem_phrase hmem).2.1 rfl
  blank c hc hblank := by
    refine (mem_phrase hc).2.2.resolve_right fun hplain => ?_
    simp [isSeparator, hblank] at hplain
  single := by
    have hjoined : SingleSpaces ('_' :: joinRuns false
        (lowerAfter [] ((partHumps (partCapitals (trimWhile isBlank cs))).map unhyphen))) :=
      singleSpaces_joinRuns (by decide) _
    exact hjoined.trimmed
  first _ hc := eq_false_of_head?_trimWhile hc
  last _ hc := eq_false_of_getLast?_trimWhile hc

/-- A text that is written as a key is, and low already, is its own phrase. -/
theorem phrase_eq_self {cs : List Char} (h : Normal cs) (hlow : ∀ c ∈ cs, IsLowered c) :
    phrase cs = cs := by
  have htrim : trimWhile isBlank cs = cs := trimWhile_eq_self h.first h.last
  have hparted : partAfter ' ' cs = cs := by
    simpa [partAfter] using partAfter_append (a := ' ') h.upper []
  have hunhyphened : cs.map unhyphen = cs := by
    have hkept : ∀ c ∈ cs, unhyphen c = c := by
      intro c hc
      refine if_neg ?_
      rintro rfl
      exact h.hyphen hc
    exact (List.map_congr_left hkept).trans (List.map_id cs)
  have hseparator : ∀ c ∈ cs, isSeparator c = true → c = ' ' := by
    intro c hc hsep
    simp only [isSeparator, Bool.or_eq_true, decide_eq_true_eq] at hsep
    rcases hsep with hblank | rfl
    · exact h.blank c hc hblank
    · exact absurd hc h.underscore
  have hbehind : SingleSpaces ('_' :: cs) :=
    List.isChain_cons.2 ⟨fun _ _ hspace => absurd hspace (by decide), h.single⟩
  have hjoined : joinRuns false cs = cs :=
    joinRuns_eq_self hseparator hbehind fun hwithin => by cases hwithin
  rw [phrase, partHumps_partCapitals, htrim, hparted]
  simp only [hunhyphened, lowerAfter_eq_self hlow, hjoined, htrim]

end Naming

/-- **A key is its own key**: it is written as keys are, whatever it is the key of, and looking up
the key of a name finds what looking up the name finds. -/
theorem Key.of_text (s : String) :
    Naming.Normal (Key.of s).text.toList ∧ Key.of (Key.of s).text = Key.of s ∧
      (∀ r : ClassRegistry, r.lookup? (Key.of s).text = r.lookup? s) ∧
      (∀ (t : ClassTable) (owner : ClassInfo),
        t.elementClass? owner (Key.of s).text = t.elementClass? owner s) ∧
      (∀ c : ClassInfo, c.property? (Key.of s).text = c.property? s) ∧
      ∀ r : CommandRegistry, r.lookup? (Key.of s).text = r.lookup? s := by
  have htext : (Key.of s).text.toList = Naming.phrase s.toList := String.toList_ofList
  have hkey : Key.of (Key.of s).text = Key.of s := by
    rw [Key.of, htext, Naming.phrase_eq_self (Naming.normal_phrase _)
      fun c hc => (Naming.mem_phrase hc).1]
    rfl
  refine ⟨htext ▸ Naming.normal_phrase _, hkey, fun r => ?_, fun t owner => ?_, fun c => ?_,
    fun r => ?_⟩
  · simp only [ClassRegistry.lookup?, ClassTable.lookup?, hkey]
  · simp only [ClassTable.elementClass?, hkey]
  · simp only [ClassInfo.property?, hkey]
  · simp only [CommandRegistry.lookup?, CommandTable.lookup?, hkey]

end ScriptGateway
