import ScriptGateway.Proofs.OrderedMap
import ScriptGateway.Proofs.Outcome
import ScriptGateway.Schema.Table

/-!
# The roster of a dictionary's classes

The first pass over the declared classes gives each of them its singular and its plural key. What it
makes of a row of classes is said once (`Roster.Registers`): the classes are the members, no two of
them share a key, and a key belongs to the class that has it. Main statements:

* `Roster.Registers.enroll`: one class more keeps this.
* `Roster.exists_ofDecls_iff`: the pass succeeds exactly for classes of which no two share a key.
* `Roster.Registers.owner_iff`: a class owns its keys and no others.
-/

set_option autoImplicit false

namespace ScriptGateway

/-- Of a row in which no two have the same name, each is found by its name. -/
theorem find?_of_nodup {α : Type} {name : α → String} {l : List α} {x : α}
    (hl : (l.map name).Nodup) (hx : x ∈ l) : l.find? (fun y => name y = name x) = some x := by
  induction l with
  | nil => cases hx
  | cons y l ih =>
    obtain ⟨hnot, hl⟩ := List.nodup_cons.1 hl
    rcases List.mem_cons.1 hx with rfl | hmem
    · simp
    · have hne : name y ≠ name x := by
        intro heq
        exact hnot (heq ▸ List.mem_map.2 ⟨x, hmem, rfl⟩)
      simp [hne, ih hl hmem]

/-- In a row in which no two have the same name, a name finds the one that has it. -/
theorem find?_eq_some_iff {α : Type} {name : α → String} {l : List α} {n : String} {x : α}
    (hl : (l.map name).Nodup) : l.find? (fun y => name y = n) = some x ↔ x ∈ l ∧ name x = n := by
  constructor
  · intro h
    exact ⟨List.mem_of_find?_eq_some h, by simpa using List.find?_some h⟩
  · rintro ⟨hx, rfl⟩
    exact find?_of_nodup hl hx

/-- The order of the row makes no difference to that. -/
theorem find?_perm {α : Type} {name : α → String} {l l' : List α} (hp : l.Perm l')
    (hl : (l.map name).Nodup) (n : String) :
    l.find? (fun y => name y = n) = l'.find? (fun y => name y = n) := by
  have hl' : (l'.map name).Nodup := (hp.map name).nodup_iff.1 hl
  refine Option.ext fun x => ?_
  rw [find?_eq_some_iff hl, find?_eq_some_iff hl', hp.mem_iff]

/-! ## Keys of a class -/

/-- The keys of a declared class, its singular one first. -/
def ClassDecl.keys (c : ClassDecl) : List Key := [Key.of c.name, Key.of (Roster.pluralOf c)]

theorem ClassDecl.mem_keys {c : ClassDecl} {k : Key} :
    k ∈ c.keys ↔ k = Key.of c.name ∨ k = Key.of (Roster.pluralOf c) := by
  simp [keys]

theorem ClassDecl.singular_mem_keys (c : ClassDecl) : Key.of c.name ∈ c.keys :=
  mem_keys.2 (.inl rfl)

theorem ClassDecl.plural_mem_keys (c : ClassDecl) : Key.of (Roster.pluralOf c) ∈ c.keys :=
  mem_keys.2 (.inr rfl)

/-! ## Claiming keys -/

namespace Roster

variable {r r' : Roster} {cs ds : List ClassDecl} {c : ClassDecl}

theorem exists_claim_iff {name : String} {owners : OrderedMap Key String} {k : Key} :
    (∃ owners', claim name owners k = .ok owners') ↔ ∀ v, owners.get? k = some v → v = name := by
  unfold claim
  cases howner : owners.get? k with
  | none => simp
  | some owner => by_cases h : owner = name <;> simp [h]

/-- A claimed key belongs to the class that claimed it, and nothing else changes. -/
theorem get?_claim {name : String} {owners owners' : OrderedMap Key String} {k : Key}
    (h : claim name owners k = .ok owners') (k' : Key) :
    owners'.get? k' = if k = k' then some name else owners.get? k' := by
  unfold claim at h
  split at h
  · cases h
    exact OrderedMap.get?_insert owners k k' name
  · rename_i owner howner
    split at h
    · rename_i heq
      cases h
      split
      · rename_i hk
        rw [← hk, howner, heq]
      · rfl
    · cases h

/-- Both keys of a class can be claimed exactly when neither belongs to another one. -/
theorem exists_claims_iff {owners : OrderedMap Key String} :
    (∃ owners₁, claim c.name owners (Key.of c.name) = .ok owners₁ ∧
        ∃ owners', claim c.name owners₁ (Key.of (pluralOf c)) = .ok owners') ↔
      ∀ k ∈ c.keys, ∀ v, owners.get? k = some v → v = c.name := by
  constructor
  · rintro ⟨owners₁, hsingular, hplural⟩ k hk v hv
    have hfirst := exists_claim_iff.1 ⟨owners₁, hsingular⟩
    rcases ClassDecl.mem_keys.1 hk with rfl | rfl
    · exact hfirst v hv
    · by_cases hsame : Key.of c.name = Key.of (pluralOf c)
      · rw [← hsame] at hv
        exact hfirst v hv
      · refine exists_claim_iff.1 hplural v ?_
        rw [get?_claim hsingular, if_neg hsame, hv]
  · intro hfree
    obtain ⟨owners₁, hsingular⟩ := exists_claim_iff.2 (hfree _ c.singular_mem_keys)
    refine ⟨owners₁, hsingular, exists_claim_iff.2 fun v hv => ?_⟩
    rw [get?_claim hsingular] at hv
    split at hv
    · exact (Option.some.inj hv).symm
    · exact hfree _ c.plural_mem_keys v hv

theorem get?_claims {owners owners₁ owners' : OrderedMap Key String}
    (hsingular : claim c.name owners (Key.of c.name) = .ok owners₁)
    (hplural : claim c.name owners₁ (Key.of (pluralOf c)) = .ok owners') (k : Key) :
    owners'.get? k = if k ∈ c.keys then some c.name else owners.get? k := by
  rw [get?_claim hplural, get?_claim hsingular]
  by_cases h₁ : Key.of (pluralOf c) = k <;> by_cases h₂ : Key.of c.name = k <;>
    simp [ClassDecl.mem_keys, h₁, h₂, eq_comm (a := k)]

/-! ## Enrolling classes -/

theorem enroll_ok_iff :
    r.enroll c = .ok r' ↔ r.member? c.name = none ∧
      ∃ owners₁, claim c.name r.owners (Key.of c.name) = .ok owners₁ ∧
        ∃ owners', claim c.name owners₁ (Key.of (pluralOf c)) = .ok owners' ∧
          r' = ⟨r.members ++ [(c, pluralOf c)], owners'⟩ := by
  unfold enroll
  split
  · rename_i hknown
    simp [Option.isSome_iff_ne_none.1 hknown]
  · rename_i hnew
    simp only [Outcome.bind_eq_ok, pure, Except.pure, Except.ok.injEq,
      Option.not_isSome_iff_eq_none.1 hnew, true_and, eq_comm (a := r')]

/-- What the first pass makes of a row of classes: they are the members with their plurals, no two
of them share a key, and each key belongs to the class that has it. -/
structure Registers (r : Roster) (cs : List ClassDecl) : Prop where
  members : r.members = cs.map fun c => (c, pluralOf c)
  apart : cs.Pairwise fun c d => c.keys.Disjoint d.keys
  owners : ∀ k v, r.owners.get? k = some v ↔ ∃ c ∈ cs, c.name = v ∧ k ∈ c.keys

theorem registers_empty : empty.Registers [] :=
  ⟨rfl, .nil, fun k v => by simp [empty]⟩

theorem Registers.member?_eq_none_iff (hr : r.Registers cs) {name : String} :
    r.member? name = none ↔ ∀ d ∈ cs, d.name ≠ name := by
  simp [member?, hr.members]

/-- A class is refused exactly when one of its keys is taken: a class of the same name has the same
singular key. -/
theorem Registers.exists_enroll_iff (hr : r.Registers cs) :
    (∃ r', r.enroll c = .ok r') ↔ ∀ d ∈ cs, d.keys.Disjoint c.keys := by
  constructor
  · rintro ⟨r', h⟩ d hd k hkd hkc
    obtain ⟨hnew, owners₁, hsingular, owners', hplural, -⟩ := enroll_ok_iff.1 h
    have hfree := exists_claims_iff.1 ⟨owners₁, hsingular, owners', hplural⟩
    exact hr.member?_eq_none_iff.1 hnew d hd
      (hfree k hkc d.name ((hr.owners k d.name).2 ⟨d, hd, rfl, hkd⟩))
  · intro hapart
    have hnew : r.member? c.name = none := by
      refine hr.member?_eq_none_iff.2 fun d hd hname => ?_
      exact hapart d hd d.singular_mem_keys (hname ▸ c.singular_mem_keys)
    obtain ⟨owners₁, hsingular, owners', hplural⟩ := exists_claims_iff.2 fun k hk v hv => by
      obtain ⟨d, hd, -, hkd⟩ := (hr.owners k v).1 hv
      exact absurd hk (hapart d hd hkd)
    exact ⟨_, enroll_ok_iff.2 ⟨hnew, owners₁, hsingular, owners', hplural, rfl⟩⟩

theorem Registers.enroll (hr : r.Registers cs) (h : r.enroll c = .ok r') :
    r'.Registers (cs ++ [c]) := by
  have hapart := hr.exists_enroll_iff.1 ⟨_, h⟩
  obtain ⟨-, owners₁, hsingular, owners', hplural, rfl⟩ := enroll_ok_iff.1 h
  refine ⟨by simp [hr.members], ?_, fun k v => ?_⟩
  · refine List.pairwise_append.2 ⟨hr.apart, List.pairwise_singleton _ _, fun d hd c' hc' => ?_⟩
    obtain rfl := List.mem_singleton.1 hc'
    exact hapart d hd
  · show owners'.get? k = some v ↔ _
    rw [get?_claims hsingular hplural]
    simp only [List.mem_append, List.mem_singleton, or_and_right, exists_or, exists_eq_left,
      ← hr.owners]
    split
    · rename_i hk
      -- no older class has the key
      have hfree : r.owners.get? k ≠ some v := by
        intro hv
        obtain ⟨d, hd, -, hkd⟩ := (hr.owners k v).1 hv
        exact hapart d hd hkd hk
      simp [hk, hfree]
    · rename_i hk
      simp [hk]

theorem Registers.foldlM (hr : r.Registers ds) (h : cs.foldlM Roster.enroll r = .ok r') :
    r'.Registers (ds ++ cs) := by
  induction cs generalizing r ds with
  | nil =>
    cases h
    simpa using hr
  | cons c cs ih =>
    rw [List.foldlM_cons, Outcome.bind_eq_ok] at h
    obtain ⟨r₁, hr₁, hrest⟩ := h
    simpa using ih (hr.enroll hr₁) hrest

theorem Registers.exists_foldlM (hr : r.Registers ds)
    (h : (ds ++ cs).Pairwise fun c d => c.keys.Disjoint d.keys) :
    ∃ r', cs.foldlM Roster.enroll r = .ok r' := by
  induction cs generalizing r ds with
  | nil => exact ⟨r, rfl⟩
  | cons c cs ih =>
    obtain ⟨-, -, hapart⟩ := List.pairwise_append.1 h
    obtain ⟨r₁, hr₁⟩ := hr.exists_enroll_iff.2 fun d hd => hapart d hd c List.mem_cons_self
    obtain ⟨r', hr'⟩ := ih (hr.enroll hr₁) (by simpa using h)
    exact ⟨r', by rw [List.foldlM_cons, Outcome.bind_eq_ok]; exact ⟨r₁, hr₁, hr'⟩⟩

theorem registers_ofDecls (h : ofDecls cs = .ok r) : r.Registers cs := by
  simpa using registers_empty.foldlM h

/-- The first pass succeeds exactly for classes of which no two share a key. -/
theorem exists_ofDecls_iff :
    (∃ r, ofDecls cs = .ok r) ↔ cs.Pairwise fun c d => c.keys.Disjoint d.keys := by
  constructor
  · rintro ⟨r, h⟩
    exact (registers_ofDecls h).apart
  · intro h
    exact registers_empty.exists_foldlM (by simpa using h)

/-! ## Members and their keys -/

/-- Classes that share no key have different names. -/
theorem nodup_names (h : cs.Pairwise fun c d => c.keys.Disjoint d.keys) :
    (cs.map (·.name)).Nodup := by
  refine List.pairwise_map.2 (h.imp fun {c d} hapart hname => ?_)
  exact hapart c.singular_mem_keys (hname ▸ d.singular_mem_keys)

theorem Registers.nodup_members (hr : r.Registers cs) : (r.members.map (·.1.name)).Nodup := by
  rw [hr.members, List.map_map]
  exact nodup_names hr.apart

theorem Registers.member?_name (hr : r.Registers cs) (hc : c ∈ cs) :
    r.member? c.name = some (c, pluralOf c) := by
  refine find?_of_nodup (x := (c, pluralOf c)) hr.nodup_members ?_
  rw [hr.members]
  exact List.mem_map_of_mem hc

theorem Registers.owner_iff (hr : r.Registers cs) (hc : c ∈ cs) {k : Key} :
    r.owners.get? k = some c.name ↔ k ∈ c.keys := by
  rw [hr.owners]
  constructor
  · rintro ⟨d, hd, hname, hk⟩
    rwa [List.inj_on_of_nodup_map (nodup_names hr.apart) hd hc hname] at hk
  · intro hk
    exact ⟨c, hc, rfl, hk⟩

/-! ## Why a class is turned away -/

theorem claim_eq_error {name : String} {owners : OrderedMap Key String} {k : Key} {f : Fault}
    (h : claim name owners k = .error f) :
    ∃ owner, owners.get? k = some owner ∧ owner ≠ name ∧
      f = .definition name (.keyTaken k.text owner) := by
  unfold claim at h
  split at h
  · cases h
  · rename_i owner howner
    split at h
    · cases h
    · rename_i hother
      exact ⟨owner, howner, hother, (Except.error.inj h).symm⟩

/-- A class is turned away because its name is there already, or because one of its keys belongs to
another class. -/
theorem enroll_eq_error {f : Fault} (h : r.enroll c = .error f) :
    (r.member? c.name).isSome ∧ f = .definition c.name .repeatedClass ∨
      ∃ k ∈ c.keys, ∃ owner, r.owners.get? k = some owner ∧ owner ≠ c.name ∧
        f = .definition c.name (.keyTaken k.text owner) := by
  unfold enroll at h
  split at h
  · rename_i hknown
    exact .inl ⟨hknown, (Except.error.inj h).symm⟩
  · simp only [Outcome.bind_eq_error, pure, Except.pure, reduceCtorEq, and_false, exists_false,
      or_false] at h
    rcases h with hsingular | ⟨owners₁, hsingular, hplural⟩
    · obtain ⟨owner, howner, hother, rfl⟩ := claim_eq_error hsingular
      exact .inr ⟨_, c.singular_mem_keys, owner, howner, hother, rfl⟩
    · obtain ⟨owner, howner, hother, rfl⟩ := claim_eq_error hplural
      rw [get?_claim hsingular] at howner
      split at howner
      · exact absurd (Option.some.inj howner).symm hother
      · exact .inr ⟨_, c.plural_mem_keys, owner, howner, hother, rfl⟩

/-- The first pass turns a class away only because an earlier one has its name, or because it shares
a key with one of another name. -/
theorem exists_turned_away {f : Fault} (h : ofDecls cs = .error f) :
    (∃ front c back, cs = front ++ c :: back ∧ c.name ∈ front.map (·.name) ∧
        f = .definition c.name .repeatedClass) ∨
      ∃ c ∈ cs, ∃ d ∈ cs, d.name ≠ c.name ∧ ∃ k ∈ c.keys, k ∈ d.keys ∧
        f = .definition c.name (.keyTaken k.text d.name) := by
  obtain ⟨front, c, back, r, rfl, hfront, hc⟩ := Outcome.foldlM_eq_error h
  have hr : r.Registers front := registers_ofDecls hfront
  have hmem : c ∈ front ++ c :: back := List.mem_append_right _ List.mem_cons_self
  rcases enroll_eq_error hc with ⟨hknown, rfl⟩ | ⟨k, hk, owner, howner, hother, rfl⟩
  · refine .inl ⟨front, c, back, rfl, ?_, rfl⟩
    by_contra hnew
    rw [hr.member?_eq_none_iff.2 fun d hd hname => hnew (List.mem_map.2 ⟨d, hd, hname⟩)] at hknown
    cases hknown
  · obtain ⟨d, hd, rfl, hkd⟩ := (hr.owners k owner).1 howner
    exact .inr ⟨c, hmem, d, List.mem_append_left _ hd, hother, k, hk, hkd, rfl⟩

/-- Of classes of different names the first pass turns one away only because it shares a key with
another one. -/
theorem ofDecls_eq_error {f : Fault} (hnames : (cs.map (·.name)).Nodup)
    (h : ofDecls cs = .error f) :
    ∃ c ∈ cs, ∃ d ∈ cs, d.name ≠ c.name ∧ ∃ k ∈ c.keys, k ∈ d.keys ∧
      f = .definition c.name (.keyTaken k.text d.name) := by
  refine (exists_turned_away h).resolve_left ?_
  rintro ⟨front, c, back, rfl, hname, -⟩
  rw [List.map_append] at hnames
  exact List.disjoint_of_nodup_append hnames hname List.mem_cons_self

end Roster

end ScriptGateway
