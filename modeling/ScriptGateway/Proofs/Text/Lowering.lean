import ScriptGateway.Text.Digit
import ScriptGateway.Text.Lower

/-!
# What lowering leaves

A text in lower case has no character left that lowering would change (`IsLowered`): the images of a
run of the case table lie outside every run or between its members (`CaseRun.clears_lowerRuns`), and
none of the characters that are treated apart is an image. So lowering a second time changes nothing
(`lowerAfter_eq_self`).
-/

set_option autoImplicit false

namespace ScriptGateway.Text

/-! ## Runs of the case table -/

namespace CaseRun

/-- The code points that the members of the run lower to begin here. -/
def imageFirst (r : CaseRun) : Nat := Int.toNat (r.first + r.shift)

def imageLast (r : CaseRun) : Nat := Int.toNat (r.last + r.shift)

/-- The images of `r` lie before or behind the members of `q`, or between them. -/
def clears (r q : CaseRun) : Bool :=
  Nat.blt r.imageLast q.first || Nat.blt q.last r.imageFirst ||
    (Nat.beq q.step 2 && (Nat.beq r.step 2 || Nat.beq r.first r.last) &&
      Nat.beq ((r.imageFirst + q.first) % 2) 1)

/-- What holds of every run of the table: its images are characters behind the ASCII capitals, and
the dotted capital I is none of them. -/
structure Sound (r : CaseRun) : Prop where
  behind : 0x5A < r.imageFirst
  valid : r.imageLast < 0xD800 ∨ 0xDFFF < r.imageFirst ∧ r.imageLast < 0x110000
  dotted : r.imageLast < 0x130 ∨ 0x130 < r.imageFirst

theorem sound_of_mem {r : CaseRun} (hr : r ∈ lowerRuns) : r.Sound := by
  have hall : ∀ r ∈ lowerRuns, 0x5A < r.imageFirst ∧
      (r.imageLast < 0xD800 ∨ 0xDFFF < r.imageFirst ∧ r.imageLast < 0x110000) ∧
      (r.imageLast < 0x130 ∨ 0x130 < r.imageFirst) := by decide +kernel
  obtain ⟨hbehind, hvalid, hdotted⟩ := hall r hr
  exact ⟨hbehind, hvalid, hdotted⟩

theorem clears_lowerRuns {r q : CaseRun} (hr : r ∈ lowerRuns) (hq : q ∈ lowerRuns) :
    r.clears q = true := by
  have hall : (lowerRuns.all fun r => lowerRuns.all r.clears) = true := by decide +kernel
  exact List.all_eq_true.1 (List.all_eq_true.1 hall r hr) q hq

/-- The only run of ASCII characters is that of the capitals. -/
theorem ascii_of_mem {r : CaseRun} (hr : r ∈ lowerRuns) :
    r = ⟨0x41, 0x5A, 1, 32⟩ ∨ 0x80 ≤ r.first := by
  have hall : ∀ r ∈ lowerRuns, r = ⟨0x41, 0x5A, 1, 32⟩ ∨ 0x80 ≤ r.first := by decide +kernel
  exact hall r hr

theorem covers_iff {r : CaseRun} {n : Nat} :
    r.covers n = true ↔ r.first ≤ n ∧ n ≤ r.last ∧ (n - r.first) % r.step = 0 := by
  simp [covers, and_assoc]

/-- The image of a member of a run. -/
theorem image_eq {r : CaseRun} {n : Nat} (hsound : r.Sound) (hn : r.covers n = true) :
    (Int.toNat (n + r.shift) : Int) = n + r.shift ∧ r.imageFirst ≤ Int.toNat (n + r.shift) ∧
      Int.toNat (n + r.shift) ≤ r.imageLast := by
  obtain ⟨hfirst, hlast, -⟩ := covers_iff.1 hn
  have hbehind := hsound.behind
  unfold imageFirst at hbehind ⊢
  unfold imageLast
  omega

/-- No image is a member of a run that is cleared. -/
theorem not_covers_image {r q : CaseRun} {n : Nat} (hsound : r.Sound) (hclear : r.clears q = true)
    (hn : r.covers n = true) : q.covers (Int.toNat (n + r.shift)) = false := by
  obtain ⟨himage, hge, hle⟩ := image_eq hsound hn
  obtain ⟨hfirst, hlast, hstep⟩ := covers_iff.1 hn
  rw [← Bool.not_eq_true, covers_iff]
  rintro ⟨hqfirst, hqlast, hqstep⟩
  simp only [clears, Bool.or_eq_true, Bool.and_eq_true, Nat.blt_eq, Nat.beq_eq] at hclear
  rcases hclear with (hbefore | hbehind) | ⟨⟨hq, hr⟩, hodd⟩
  · omega
  · omega
  · -- the images and the members of `q` have different parities
    have hsame : Int.toNat (n + r.shift) % 2 = r.imageFirst % 2 := by
      have hbehind := hsound.behind
      unfold imageFirst at hbehind ⊢
      rcases hr with htwo | hone
      · rw [htwo] at hstep
        omega
      · omega
    rw [hq] at hqstep
    omega

end CaseRun

/-! ## Characters that are low already -/

/-- The character is in no run of the case table, nor is it the dotted capital I. -/
def IsLowered (c : Char) : Prop := c ≠ 'İ' ∧ ∀ r ∈ lowerRuns, r.covers c.toNat = false

instance (c : Char) : Decidable (IsLowered c) :=
  inferInstanceAs (Decidable (_ ∧ ∀ r ∈ lowerRuns, _))

namespace IsLowered

variable {c : Char}

theorem isAsciiUpper_eq (h : IsLowered c) : isAsciiUpper c = false := by
  have hcapitals := h.2 ⟨0x41, 0x5A, 1, 32⟩ (by decide)
  rw [← Bool.not_eq_true] at hcapitals ⊢
  intro hupper
  simp only [isAsciiUpper, Bool.and_eq_true, decide_eq_true_eq] at hupper
  exact hcapitals (CaseRun.covers_iff.2 ⟨hupper.1, hupper.2, Nat.mod_one _⟩)

theorem ne_sigma (h : IsLowered c) : c ≠ 'Σ' := by
  rintro rfl
  exact absurd h (by decide)

theorem lowerChar_eq (h : IsLowered c) : lowerChar c = [c] := by
  have hupper : ('A' ≤ c && c ≤ 'Z') = false := h.isAsciiUpper_eq
  have hnone : lowerRuns.find? (·.covers c.toNat) = none :=
    List.find?_eq_none.2 fun r hr => by simp [h.2 r hr]
  simp [lowerChar, hupper, h.1, hnone]

end IsLowered

/-- An ASCII character that is no capital is low. -/
theorem isLowered_of_ascii {c : Char} (hc : c.toNat < 0x80) (hupper : ¬('A' ≤ c ∧ c ≤ 'Z')) :
    IsLowered c := by
  refine ⟨?_, fun r hr => ?_⟩
  · rintro rfl
    exact absurd hc (by decide)
  · rw [← Bool.not_eq_true, CaseRun.covers_iff]
    rintro ⟨hfirst, hlast, -⟩
    rcases CaseRun.ascii_of_mem hr with rfl | hbeyond
    · exact hupper ⟨hfirst, hlast⟩
    · omega

/-- The image of a member of a run is low, and it stands behind the ASCII capitals. -/
theorem isLowered_image {r : CaseRun} {n : Nat} (hr : r ∈ lowerRuns) (hn : r.covers n = true) :
    IsLowered (Char.ofNat (Int.toNat (n + r.shift))) ∧
      0x5A < (Char.ofNat (Int.toNat (n + r.shift))).toNat := by
  have hsound := CaseRun.sound_of_mem hr
  obtain ⟨himage, hge, hle⟩ := CaseRun.image_eq hsound hn
  have hvalid : (Int.toNat (n + r.shift)).isValidChar := by
    rcases hsound.valid with hlow | ⟨hhigh, htop⟩
    · exact .inl (by omega)
    · exact .inr ⟨by omega, by omega⟩
  have htoNat : (Char.ofNat (Int.toNat (n + r.shift))).toNat = Int.toNat (n + r.shift) := by
    rw [Char.ofNat, dif_pos hvalid]
    rfl
  refine ⟨⟨fun hdotted => ?_, fun q hq => ?_⟩, ?_⟩
  · have himage : Int.toNat (n + r.shift) = 0x130 := by
      rw [← htoNat, hdotted]
      rfl
    rcases hsound.dotted with hbefore | hbehind
    · omega
    · omega
  · rw [htoNat]
    exact CaseRun.not_covers_image hsound (CaseRun.clears_lowerRuns hr hq) hn
  · have hbehind := hsound.behind
    omega

/-- What the characters become that are treated apart. -/
theorem isLowered_apart {d : Char} (h : d ∈ ['i', '\u0307', 'ς', 'σ']) :
    IsLowered d ∧ 0x5A < d.toNat := by
  simp only [List.mem_cons, List.not_mem_nil, or_false] at h
  rcases h with rfl | rfl | rfl | rfl
  · decide +kernel
  · decide +kernel
  · decide +kernel
  · decide +kernel

/-- What a character becomes is low. It is that character, or it stands behind the ASCII
capitals. -/
theorem isLowered_of_mem_lowerChar {c d : Char} (h : d ∈ lowerChar c) :
    IsLowered d ∧ (d = c ∨ 0x5A < d.toNat) := by
  unfold lowerChar at h
  split at h
  · rename_i hascii
    obtain rfl := List.mem_singleton.1 h
    split
    · rename_i hupper
      rw [Bool.and_eq_true, decide_eq_true_eq, decide_eq_true_eq] at hupper
      have himage := isLowered_image (r := ⟨0x41, 0x5A, 1, 32⟩) (n := c.toNat) (by decide)
        (CaseRun.covers_iff.2 ⟨hupper.1, hupper.2, Nat.mod_one _⟩)
      exact ⟨himage.1, .inr himage.2⟩
    · rename_i hupper
      rw [Bool.and_eq_true, decide_eq_true_eq, decide_eq_true_eq] at hupper
      exact ⟨isLowered_of_ascii hascii hupper, .inl rfl⟩
  · split at h
    · obtain ⟨hlow, hbehind⟩ := isLowered_apart (List.mem_append_left ['ς', 'σ'] h)
      exact ⟨hlow, .inr hbehind⟩
    · rename_i hdotted
      split at h
      · rename_i r hfind
        obtain rfl := List.mem_singleton.1 h
        have himage := isLowered_image (List.mem_of_find?_eq_some hfind)
          (by simpa using List.find?_some hfind)
        exact ⟨himage.1, .inr himage.2⟩
      · rename_i hnone
        obtain rfl := List.mem_singleton.1 h
        exact ⟨⟨hdotted, fun r hr => by simpa using List.find?_eq_none.1 hnone r hr⟩, .inl rfl⟩

/-! ## Texts -/

/-- Every character of a lowered text is low, and those before the ASCII letters were there. -/
theorem isLowered_of_mem_lowerAfter {before cs : List Char} {d : Char}
    (h : d ∈ lowerAfter before cs) : IsLowered d ∧ (d ∈ cs ∨ 0x5A < d.toNat) := by
  induction cs generalizing before with
  | nil => cases h
  | cons c cs ih =>
    rcases List.mem_append.1 h with hhead | hrest
    · split at hhead
      · have hmem : d ∈ ['ς', 'σ'] := by
          split at hhead
          · simp [List.mem_singleton.1 hhead]
          · simp [List.mem_singleton.1 hhead]
        obtain ⟨hlow, hbehind⟩ := isLowered_apart (List.mem_append_right ['i', '\u0307'] hmem)
        exact ⟨hlow, .inr hbehind⟩
      · obtain ⟨hlow, hkept⟩ := isLowered_of_mem_lowerChar hhead
        exact ⟨hlow, hkept.imp_left fun heq => List.mem_cons.2 (.inl heq)⟩
    · obtain ⟨hlow, hkept⟩ := ih hrest
      exact ⟨hlow, hkept.imp_left (List.mem_cons_of_mem c)⟩

/-- A text of low characters stays as it is, whatever stands before it. -/
theorem lowerAfter_eq_self {before cs : List Char} (h : ∀ c ∈ cs, IsLowered c) :
    lowerAfter before cs = cs := by
  induction cs generalizing before with
  | nil => rfl
  | cons c cs ih =>
    obtain ⟨hc, hcs⟩ := List.forall_mem_cons.1 h
    rw [lowerAfter, if_neg hc.ne_sigma, hc.lowerChar_eq, ih hcs]
    rfl

end ScriptGateway.Text
