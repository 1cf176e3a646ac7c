import ScriptGateway.Proofs.Path.Segments

/-!
# Joined segments

Segments that were joined with slashes are split again, also where the slash in front or the one at
the end is left out. The path then has to begin, or end, with a segment that is not empty: a slash
beside an empty segment would be taken for the one that was left out. Main statement:
`segments_joined`.
-/

set_option autoImplicit false

namespace ScriptGateway.Path

open Text

variable {segs : List String} {path : String}

/-! ## Slashes around a path -/

theorem splitAt_concat (sep : Char) (cs : List Char) :
    splitAt sep (cs ++ [sep]) = splitAt sep cs ++ [[]] := by
  induction cs with
  | nil => simp [splitAt]
  | cons c cs ih =>
    by_cases hc : c = sep
    · simp [splitAt, hc, ih]
    · obtain ⟨piece, pieces, hpieces⟩ := List.exists_cons_of_ne_nil (splitAt_ne_nil sep cs)
      simp [splitAt, hc, ih, hpieces]

/-- A slash at the end leaves an empty piece, which does not count. -/
theorem segments_slashes (hne : segs ≠ []) (h : ∀ s ∈ segs, '/' ∉ s.toList) :
    segments ("/" ++ joinWith "/" segs ++ "/") = segs := by
  have hpath : ("/" ++ joinWith "/" segs ++ "/").toList =
      '/' :: ((joinWith "/" segs).toList ++ ['/']) := by simp
  rw [segments_eq, hpath, behindSlash, splitAt_concat, dropEmptyLast_concat,
    splitAt_joinWith hne h]
  simp

theorem length_segments_slash_le (hne : segs ≠ []) (h : ∀ s ∈ segs, '/' ∉ s.toList) :
    (segments ("/" ++ joinWith "/" segs)).length ≤ segs.length := by
  have hpieces : (segs.map String.toList).length = segs.length := List.length_map _
  rw [segments_slash_eq hne h, List.length_map, ← hpieces]
  exact length_dropEmptyLast_le _

theorem segments_slash_iff (hne : segs ≠ []) (h : ∀ s ∈ segs, '/' ∉ s.toList) :
    segments ("/" ++ joinWith "/" segs) = segs ↔ segs.getLast? ≠ some "" := by
  refine ⟨fun hsegs hlast => ?_, segments_slash_joinWith hne h⟩
  obtain ⟨front, rfl⟩ := List.getLast?_eq_some_iff.1 hlast
  have hfront : segments ("/" ++ joinWith "/" (front ++ [""])) = front := by
    rw [segments_slash_eq hne h, List.map_append]
    exact (congrArg _ (dropEmptyLast_concat _)).trans (by simp)
  rw [hfront] at hsegs
  exact absurd (congrArg List.length hsegs) (by simp)

/-- Without a slash in front the first character is that of the first segment. -/
theorem behindSlash_joinWith {s : String} {rest : List String} (hs : s ≠ "")
    (hslash : '/' ∉ s.toList) :
    behindSlash (joinWith "/" (s :: rest)).toList = (joinWith "/" (s :: rest)).toList := by
  obtain ⟨c, cs, hcs⟩ := List.exists_cons_of_ne_nil (mt String.toList_eq_nil_iff.1 hs)
  have hc : c ≠ '/' := by
    rintro rfl
    exact hslash (by rw [hcs]; exact List.mem_cons_self)
  have hfirst : ∃ more, (joinWith "/" (s :: rest)).toList = c :: more := by
    cases rest with
    | nil => exact ⟨cs, hcs⟩
    | cons t rest =>
      rw [joinWith, String.toList_append, String.toList_append, hcs]
      exact ⟨_, rfl⟩
  obtain ⟨more, hmore⟩ := hfirst
  exact behindSlash_eq_self fun _ h => hc (List.cons.inj (hmore.symm.trans h)).1

theorem segments_bare_iff (hne : segs ≠ []) (h : ∀ s ∈ segs, '/' ∉ s.toList) :
    segments (joinWith "/" segs) = segs ↔ segs.head? ≠ some "" ∧ segs.getLast? ≠ some "" := by
  obtain ⟨s, rest, rfl⟩ := List.exists_cons_of_ne_nil hne
  by_cases hs : s = ""
  · subst hs
    -- the slash behind an empty first segment is taken for the one in front
    have hshort : (segments (joinWith "/" ("" :: rest))).length < ("" :: rest).length := by
      cases rest with
      | nil => decide
      | cons t rest =>
        have hrest := (List.forall_mem_cons.1 h).2
        have hpath : joinWith "/" ("" :: t :: rest) = "/" ++ joinWith "/" (t :: rest) := by
          rw [joinWith, String.empty_append]
        rw [hpath]
        exact Nat.lt_succ_of_le (length_segments_slash_le (by simp) hrest)
    refine iff_of_false (fun hsegs => ?_) (by simp)
    rw [hsegs] at hshort
    exact absurd hshort (Nat.lt_irrefl _)
  · have hslash : ("/" ++ joinWith "/" (s :: rest)).toList =
        '/' :: (joinWith "/" (s :: rest)).toList := by simp
    have hsame : segments (joinWith "/" (s :: rest)) =
        segments ("/" ++ joinWith "/" (s :: rest)) := by
      rw [segments_eq, segments_eq, hslash, behindSlash_joinWith hs (h s List.mem_cons_self)]
      rfl
    rw [hsame, segments_slash_iff hne h]
    simp [hs]

/-! ## Paths without segments -/

theorem splitAt_eq_singleton_nil {sep : Char} {cs : List Char} (h : splitAt sep cs = [[]]) :
    cs = [] := by
  cases cs with
  | nil => rfl
  | cons c cs =>
    obtain ⟨piece, pieces, hpieces⟩ := List.exists_cons_of_ne_nil (splitAt_ne_nil sep cs)
    by_cases hc : c = sep
    · simp [splitAt, hc, hpieces] at h
    · simp [splitAt, hc, hpieces] at h

theorem behindSlash_eq_nil_iff {cs : List Char} : behindSlash cs = [] ↔ cs = [] ∨ cs = ['/'] := by
  unfold behindSlash
  split
  · simp
  · rename_i hslash
    exact (or_iff_left fun h => hslash [] h).symm

theorem eq_singleton_nil_of_dropEmptyLast {pieces : List (List Char)} (hne : pieces ≠ [])
    (h : dropEmptyLast pieces = []) : pieces = [[]] := by
  unfold dropEmptyLast at h
  split at h
  · rename_i hlast
    obtain ⟨front, rfl⟩ := List.getLast?_eq_some_iff.1 hlast
    rw [List.dropLast_concat] at h
    rw [h, List.nil_append]
  · exact absurd h hne

theorem segments_eq_nil_iff : segments path = [] ↔ path = "" ∨ path = "/" := by
  rw [segments_eq, List.map_eq_nil_iff]
  constructor
  · intro h
    have hone := eq_singleton_nil_of_dropEmptyLast (splitAt_ne_nil _ _) h
    exact (behindSlash_eq_nil_iff.1 (splitAt_eq_singleton_nil hone)).imp
      (fun h => String.toList_inj.1 h) fun h => String.toList_inj.1 h
  · rintro (rfl | rfl)
    · rfl
    · rfl

/-- **Splitting undoes joining**: segments between two slashes are read back, whatever they are;
behind a slash exactly where the last one is not empty, and without a slash exactly where neither
the first nor the last one is. No segment contains a slash, and only two paths have none. -/
theorem segments_joined :
    (∀ segs : List String, segs ≠ [] → (∀ s ∈ segs, '/' ∉ s.toList) →
      segments ("/" ++ joinWith "/" segs ++ "/") = segs ∧
      (segments ("/" ++ joinWith "/" segs) = segs ↔ segs.getLast? ≠ some "") ∧
      (segments (joinWith "/" segs) = segs ↔
        segs.head? ≠ some "" ∧ segs.getLast? ≠ some "")) ∧
    ∀ path, (∀ s ∈ segments path, '/' ∉ s.toList) ∧
      (segments path = [] ↔ path = "" ∨ path = "/") :=
  ⟨fun _ hne h => ⟨segments_slashes hne h, segments_slash_iff hne h, segments_bare_iff hne h⟩,
    fun _ => ⟨fun _ => slash_notMem_of_mem_segments, segments_eq_nil_iff⟩⟩

/-- Empty segments at both ends and two slashes side by side. -/
theorem segments_joined_empty_ends :
    ["", "tracks", "", "1", ""] ≠ [] ∧
      (∀ s ∈ ["", "tracks", "", "1", ""], '/' ∉ s.toList) ∧
      segments "//tracks//1//" = ["", "tracks", "", "1", ""] ∧
      segments "//tracks//1/" ≠ ["", "tracks", "", "1", ""] := by
  have hne : ["", "tracks", "", "1", ""] ≠ [] := by decide
  have hslash : ∀ s ∈ ["", "tracks", "", "1", ""], '/' ∉ s.toList := by decide
  obtain ⟨hboth, hfront, -⟩ := segments_joined.1 _ hne hslash
  exact ⟨hne, hslash, hboth, fun h => hfront.1 h rfl⟩

end ScriptGateway.Path
