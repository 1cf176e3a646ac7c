import ScriptGateway.Proofs.Specifier.DeadEnds
import ScriptGateway.Proofs.Specifier.Nesting

/-!
# What paths share with their beginnings

The segments before any place of a path that is followed are a path that is followed as well, and
its script is the beginning of the longer one (`resolve_take`). Where a path is refused, the
segments before the one at fault can be followed, and no segment after it counts
(`resolve_blames`).

Both rest on `Walk.Move.ends`: a segment that leads on can also be the last one. It then makes the
same step, or else it is read as a property, for which no variable is bound.
-/

set_option autoImplicit false

namespace ScriptGateway

/-! ## Cutting a walk off -/

namespace Walk

variable {t : ClassTable} {current : ClassInfo} {pending isLast : Bool} {segment : String}
  {s : Step}

theorem Move.blank_eq (h : Move t current pending segment isLast s) :
    Text.blank segment = false := by
  cases h <;> assumption

/-- A segment that leads on makes the same step at the end of a path, unless it names a property
there. -/
theorem Move.ends (h : Move t current pending segment false s) :
    Move t current pending segment true s ∨
      ∃ p, Move t current pending segment true ⟨segment, .property p, current⟩ := by
  cases h with
  | index hb hi hn => exact .inl (.index hb hi hn)
  | quoted hb hi hq hne => exact .inl (.quoted hb hi hq hne)
  | bare hb hi hq _ =>
    cases hp : current.property? segment with
    | none => exact .inl (.bare hb hi hq fun _ => hp)
    | some p => exact .inr ⟨p, .across hb hi hq hp⟩
  | collection hb _ hc =>
    cases hp : current.property? segment with
    | none => exact .inl (.collection hb (fun _ => hp) hc)
    | some p => exact .inr ⟨p, .property hb hp⟩
  | descend hb _ hp _ => exact .inr ⟨_, .property hb hp⟩

theorem Leads.blank_eq {segments : List String} {steps : List Step}
    (h : Leads t current pending segments steps) : ∀ x ∈ segments, Text.blank x = false := by
  induction h with
  | here => simp
  | next hm _ ih => exact List.forall_mem_cons.2 ⟨hm.blank_eq, ih⟩

/-- The beginning of a row of segments leads somewhere, and binds what the whole row binds first.
The induction is on the beginning; its last segment may change its meaning. -/
theorem Leads.front {front back : List String} {steps : List Step}
    (h : Leads t current pending (front ++ back) steps) (hne : front ≠ []) :
    ∃ steps', Leads t current pending front steps' ∧
      steps'.filter (·.narrows) <+: steps.filter (·.narrows) := by
  induction front generalizing current pending steps with
  | nil => exact absurd rfl hne
  | cons segment front ih =>
    rw [List.cons_append] at h
    obtain _ | ⟨hm, hrest⟩ := h
    rename_i s more
    by_cases hfront : front = []
    · subst hfront
      have hend : Move t current pending segment true s ∨
          ∃ p, Move t current pending segment true ⟨segment, .property p, current⟩ := by
        cases back with
        | nil => exact .inl hm
        | cons => exact hm.ends
      rcases hend with hend | ⟨p, hend⟩
      · have hfirst : [s] <+: s :: more := List.prefix_append [s] more
        exact ⟨[s], .next hend .here, hfirst.filter _⟩
      · exact ⟨_, .next hend .here, List.nil_prefix⟩
    · obtain ⟨steps', hleads, hbound⟩ := ih hrest hfront
      have hmore : (front ++ back).isEmpty = front.isEmpty := by
        obtain ⟨x, xs, rfl⟩ := List.exists_cons_of_ne_nil hfront
        rfl
      rw [hmore] at hm
      refine ⟨s :: steps', .next hm hleads, ?_⟩
      cases hn : s.narrows with
      | true => simpa [hn] using hbound
      | false => simpa [hn] using hbound

/-- Segments that have been passed can end a path. -/
theorem Passes.leads {front : List String} {current' : ClassInfo} {pending' : Bool}
    (h : Passes t current pending front current' pending') (hne : front ≠ []) :
    ∃ steps, Leads t current pending front steps := by
  induction h with
  | here => exact absurd rfl hne
  | @next _ _ _ _ _ front s hm _ ih =>
    by_cases hfront : front = []
    · subst hfront
      rcases hm.ends with hend | ⟨p, hend⟩
      · exact ⟨_, .next hend .here⟩
      · exact ⟨_, .next hend .here⟩
    · obtain ⟨steps, hleads⟩ := ih hfront
      have hmore : front.isEmpty = false := by simpa using hfront
      rw [← hmore] at hm
      exact ⟨_, .next hm hleads⟩

end Walk

/-- Segments that lead somewhere make up a path that is followed. -/
theorem resolve_along {r : ClassRegistry} {t : ClassTable} {root : ClassInfo}
    {segs : List String} {steps : List Step} (ht : r.table? = some t)
    (hroot : t.lookup? ClassTable.rootName = some root) (hslash : ∀ x ∈ segs, '/' ∉ x.toList)
    (hne : segs ≠ []) (h : Walk.Leads t root false segs steps) (stem : String) :
    resolve r (Path.along segs) stem = .ok ⟨Path.along segs, stem, root, steps⟩ := by
  have hsegs : Path.segments (Path.along segs) = segs := by
    refine Path.segments_along hslash fun hlast => ?_
    have hblank := h.blank_eq "" (List.mem_of_getLast? hlast)
    exact absurd hblank (by decide)
  refine resolve_ok_iff.2 ⟨t, ht, ?_, hroot, rfl, rfl, ?_⟩
  · rw [hsegs]
    exact hne
  · rw [hsegs]
    exact h

/-! ## What stays of a script -/

namespace Specifier

theorem bindFrom_mono (stem : String) (n : Nat) {ps qs : List String} (h : ps <+: qs) :
    bindFrom stem n ps <+: bindFrom stem n qs := by
  obtain ⟨rest, rfl⟩ := h
  rw [bindFrom_append]
  exact List.prefix_append _ _

/-- The statements that stay when a path goes on: all but the binding of a collection that ends the
chain. -/
def lasting (s : Specifier) : List String :=
  if s.last?.any (·.isCollection) then s.statements.dropLast else s.statements

/-- What stays are the bindings of the root and of the objects selected one by one. -/
theorem lasting_eq (s : Specifier) :
    s.lasting = (⟨variableName s.stem 0, rootExpression⟩ ::
      bindFrom s.stem 0 (narrowing s.steps)).map (·.line) := by
  have hlast : s.last? = s.steps.getLast? := rfl
  unfold lasting statements bindings
  rw [boundPhrases_eq, collectionBefore?_eq, hlast]
  cases s.steps.getLast? with
  | none => simp
  | some x =>
    cases hx : x.isCollection with
    | false => simp [hx]
    | true =>
      simp only [Option.any_some, hx, ite_true, Option.bind_some, Option.toList_some,
        bindFrom_append, bindFrom, ← List.cons_append, List.map_append, List.map_cons,
        List.map_nil, List.dropLast_concat]

theorem lasting_begins {s s' : Specifier} (hstem : s'.stem = s.stem)
    (h : s'.steps.filter (·.narrows) <+: s.steps.filter (·.narrows)) :
    s'.lasting <+: s.statements := by
  have hbound : narrowing s'.steps <+: boundPhrases s.steps := by
    rw [boundPhrases_eq]
    exact (h.map _).trans (List.prefix_append _ _)
  rw [lasting_eq, hstem]
  exact (List.prefix_cons_inj _).2 (bindFrom_mono s.stem 0 hbound) |>.map _

end Specifier

/-- **The beginnings of a path are followed**: the first segments of a path that is followed make up
one that is followed too, and of its statements those that last begin the longer path's script. -/
theorem resolve_take {r : ClassRegistry} {path stem : String} {s : Specifier}
    (h : resolve r path stem = .ok s) {k : Nat} (hk : 0 < k) :
    ∃ s', resolve r (Path.along ((Path.segments path).take k)) stem = .ok s' ∧
      s'.lasting <+: s.statements := by
  obtain ⟨t, ht, hne, hroot, -, hstem, hleads⟩ := resolve_ok_iff.1 h
  have hfront : (Path.segments path).take k ≠ [] := by
    intro hnil
    rcases List.take_eq_nil_iff.1 hnil with hzero | hnil
    · exact absurd hzero (by omega)
    · exact hne hnil
  rw [← List.take_append_drop k (Path.segments path)] at hleads
  obtain ⟨steps, hbegin, hbound⟩ := hleads.front hfront
  have hslash : ∀ x ∈ (Path.segments path).take k, '/' ∉ x.toList :=
    fun x hx => Path.slash_notMem_of_mem_segments (List.mem_of_mem_take hx)
  exact ⟨_, resolve_along ht hroot hslash hfront hbegin stem,
    Specifier.lasting_begins hstem.symm hbound⟩

/-- The parent of a playlist is an object on the way to its tracks, and a property at the end. -/
theorem resolve_take_parent :
    ∃ r s s', ClassRegistry.empty.load shelf [] = .ok r ∧
      resolve r "/playlists/2/parent/tracks/name" "obj" = .ok s ∧
      resolve r "/playlists/2/parent" "obj" = .ok s' ∧ s'.lasting <+: s.statements := by
  obtain ⟨r, s, hr, hs⟩ :=
    exists_followed shelf "/playlists/2/parent/tracks/name" "obj" (by decide +kernel)
  obtain ⟨s', hs', hbegin⟩ := resolve_take hs (k := 3) (by decide)
  have hpath : Path.along ((Path.segments "/playlists/2/parent/tracks/name").take 3) =
      "/playlists/2/parent" := by decide +kernel
  rw [hpath] at hs'
  exact ⟨r, s, s', hr, hs, hs', hbegin⟩

/-! ## The segment at fault -/

/-- The failure names the segment at the position, and the path up to it. -/
def Unresolved.StandsAt (u : Unresolved) (path : String) (i : Nat) : Prop :=
  (Path.segments path)[i]? = some u.segment ∧ u.before = Path.along ((Path.segments path).take i)

/-- The path before a segment tells its position. -/
theorem Unresolved.StandsAt.position_eq {u : Unresolved} {path : String} {i j : Nat}
    (hi : u.StandsAt path i) (hj : u.StandsAt path j) : i = j := by
  have hslash : ∀ k, ∀ x ∈ (Path.segments path).take k, '/' ∉ x.toList :=
    fun k x hx => Path.slash_notMem_of_mem_segments (List.mem_of_mem_take hx)
  have htake := Path.along_inj (hslash i) (hslash j) (hi.2.symm.trans hj.2)
  have hlen := congrArg List.length htake
  obtain ⟨hilt, -⟩ := List.getElem?_eq_some_iff.1 hi.1
  obtain ⟨hjlt, -⟩ := List.getElem?_eq_some_iff.1 hj.1
  simp only [List.length_take] at hlen
  omega

/-- The segments before the one at fault make up a path that is followed. -/
theorem resolve_passed {r : ClassRegistry} {t : ClassTable} {root current : ClassInfo}
    {pending : Bool} {path segment : String} {front rest : List String} (ht : r.table? = some t)
    (hroot : t.lookup? ClassTable.rootName = some root)
    (hsegs : Path.segments path = front ++ segment :: rest)
    (hpass : Walk.Passes t root false front current pending) (hne : front ≠ []) (stem : String) :
    ∃ s, resolve r (Path.along front) stem = .ok s := by
  have hslash : ∀ x ∈ front, '/' ∉ x.toList := by
    intro x hx
    have hmem : x ∈ Path.segments path := by
      rw [hsegs]
      exact List.mem_append_left _ hx
    exact Path.slash_notMem_of_mem_segments hmem
  obtain ⟨steps, hleads⟩ := hpass.leads hne
  exact ⟨_, resolve_along ht hroot hslash hne hleads stem⟩

/-- More segments stand behind one that is not the last. -/
theorem isEmpty_of_length_lt {segs front rest : List String} {segment : String}
    (hsegs : segs = front ++ segment :: rest) (h : front.length + 1 < segs.length) :
    rest.isEmpty = false := by
  cases rest with
  | nil => simp [hsegs] at h
  | cons => rfl

/-- **A refusal names the segment at fault**, at one position of the path: the segments before it
are followed as a path of their own, and when some stand after it, every path that goes on in
another way behind it is refused for the same reason. -/
theorem resolve_blames {r : ClassRegistry} {path stem : String} {u : Unresolved}
    (h : resolve r path stem = .error (.refused (.unresolved u))) (hne : Path.segments path ≠ []) :
    ∃ i, u.StandsAt path i ∧ (∀ j, u.StandsAt path j → j = i) ∧
      (u.before ≠ "" → ∃ s, resolve r u.before stem = .ok s) ∧
      (i + 1 < (Path.segments path).length → ∀ path',
        (Path.segments path).take (i + 1) <+: Path.segments path' →
        i + 1 < (Path.segments path').length →
        resolve r path' stem = .error (.refused (.unresolved u))) := by
  obtain ⟨t, root, front, segment, rest, current, pending, ht, hroot, hsegs, hpass, hstop⟩ :=
    (resolve_eq_refused_iff hne).1 h
  obtain ⟨reason, hu⟩ := Walk.step_eq_refused hstop
  obtain rfl := Refusal.unresolved.inj hu
  have hat : Unresolved.StandsAt ⟨segment, Path.along front, reason⟩ path front.length := by
    rw [Unresolved.StandsAt, hsegs]
    simp
  refine ⟨front.length, hat, fun j hj => hj.position_eq hat, fun hbefore => ?_,
    fun hmore path' hbegin hmore' => ?_⟩
  · have hfront : front ≠ [] := by
      rintro rfl
      exact hbefore rfl
    exact resolve_passed ht hroot hsegs hpass hfront stem
  · have hshared : (Path.segments path).take (front.length + 1) = front ++ [segment] := by
      rw [hsegs, List.take_length_add_append]
      rfl
    rw [hshared] at hbegin
    obtain ⟨rest', hsegs'⟩ := hbegin
    rw [List.append_assoc, List.singleton_append] at hsegs'
    -- some segments follow in both paths, so neither reads the segment as its last one
    have hrest := isEmpty_of_length_lt hsegs hmore
    have hrest' := isEmpty_of_length_lt hsegs'.symm hmore'
    have hne' : Path.segments path' ≠ [] := by simp [← hsegs']
    rw [hrest, ← hrest'] at hstop
    exact (resolve_eq_refused_iff hne').2
      ⟨t, root, front, segment, rest', current, pending, ht, hroot, hsegs'.symm, hpass, hstop⟩

/-- A name leads nowhere, whatever stands after it. -/
theorem resolve_blames_name :
    ∃ r, ∃ u : Unresolved, ClassRegistry.empty.load shelf [] = .ok r ∧
      u = ⟨"name", "/playlists/2", .plainProperty "name" "playlist"⟩ ∧
      resolve r "/playlists/2/name/of/it" "obj" = .error (.refused (.unresolved u)) ∧
      (∃ s, resolve r "/playlists/2" "obj" = .ok s) ∧
      resolve r "playlists/2/name//" "obj" = .error (.refused (.unresolved u)) := by
  have hrefused : ((ClassRegistry.empty.load shelf []).toOption.map fun r =>
      match resolve r "/playlists/2/name/of/it" "obj" with
      | .error p => some p
      | .ok _ => none) =
      some (some (.refused (.unresolved
        ⟨"name", "/playlists/2", .plainProperty "name" "playlist"⟩))) := by decide +kernel
  obtain ⟨r, hr, hrefused⟩ := Option.map_eq_some_iff.1 hrefused
  have hproblem : resolve r "/playlists/2/name/of/it" "obj" = .error (.refused (.unresolved
      ⟨"name", "/playlists/2", .plainProperty "name" "playlist"⟩)) := by
    split at hrefused
    · rename_i p hp
      rw [hp, Option.some.inj hrefused]
    · cases hrefused
  have hsegs : Path.segments "/playlists/2/name/of/it" =
      ["playlists", "2", "name", "of", "it"] := by
    decide +kernel
  have hsegs' : Path.segments "playlists/2/name//" = ["playlists", "2", "name", ""] := by
    decide +kernel
  obtain ⟨i, hat, honly, hbefore, hafter⟩ := resolve_blames hproblem (by simp [hsegs])
  obtain rfl : 2 = i := honly 2 ⟨by simp [hsegs], by rw [hsegs]; decide +kernel⟩
  refine ⟨r, _, Outcome.toOption_eq_some.1 hr, rfl, hproblem, hbefore (by decide), ?_⟩
  refine hafter ?_ _ ?_ ?_
  · simp [hsegs]
  · simp [hsegs, hsegs']
  · simp [hsegs']

end ScriptGateway
