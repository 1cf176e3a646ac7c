import ScriptGateway.Command.Table
import ScriptGateway.Proofs.Schema.Lookup

/-!
# Loading once

The load of a registry, carried out step by step on the registry itself: a fault ends it, and
nothing that a step before it has written is taken back (`Procedure`). Only the last step of a load
writes, so a load does what the registry's `load` says and leaves the registry alone when it fails
(`ClassRegistry.filling_performs`, `CommandRegistry.filling_performs`). All answers of a registry,
whether it is loaded, its list, what a name finds and its root, are read off what is kept.

A row of attempts fills a registry with what the first good one of them makes of an empty registry
(`leftBy_first`), or leaves it empty (`leftBy_empty`). Main statement: `registries_load_once`.
-/

set_option autoImplicit false

namespace ScriptGateway

/-! ## Steps on what is kept -/

/-- Steps on something that is there before and after them. A fault ends them and takes nothing
back. -/
abbrev Procedure (σ α : Type) := ExceptT Fault (StateM σ) α

namespace Procedure

variable {σ α β : Type} {p : Procedure σ α} {f : α → Procedure σ β}

def outcome (p : Procedure σ α) (s : σ) : Except Fault α := (p.run.run s).1

/-- What is there after the steps. -/
def left (p : Procedure σ α) (s : σ) : σ := (p.run.run s).2

/-- The steps give what the computation gives and write nothing. -/
def Reads (p : Procedure σ α) (x : Except Fault α) : Prop := ∀ s, p.run.run s = (x, s)

theorem Reads.bind_ok {a : α} (h : p.Reads (.ok a)) (s : σ) :
    (p >>= f).run.run s = (f a).run.run s := by
  have hp := h s
  simp only [ExceptT.run_bind, StateT.run_bind, hp]
  rfl

theorem Reads.bind_error {e : Fault} (h : p.Reads (.error e)) : (p >>= f).Reads (.error e) := by
  intro s
  have hp := h s
  simp only [ExceptT.run_bind, StateT.run_bind, hp]
  rfl

theorem Reads.bind {x : Except Fault α} {g : α → Except Fault β} (h : p.Reads x)
    (hf : ∀ a, (f a).Reads (g a)) : (p >>= f).Reads (x >>= g) := by
  cases x with
  | error e => exact h.bind_error
  | ok a => exact fun s => (h.bind_ok s).trans (hf a s)

theorem reads_pure (a : α) : Reads (pure a : Procedure σ α) (.ok a) := fun _ => rfl

theorem reads_lift (x : Except Fault α) : Reads (liftM x : Procedure σ α) x := by
  intro s
  cases x <;> rfl

theorem reads_foldlM (g : β → α → Except Fault β) (l : List α) (b : β) :
    Reads (l.foldlM (fun b a => (liftM (g b a) : Procedure σ β)) b) (l.foldlM g b) := by
  induction l generalizing b with
  | nil => exact reads_pure b
  | cons a l ih =>
    rw [List.foldlM_cons, List.foldlM_cons]
    exact (reads_lift (g b a)).bind ih

theorem reads_mapM (g : α → Except Fault β) (l : List α) :
    Reads (l.mapM fun a => (liftM (g a) : Procedure σ β)) (l.mapM g) := by
  induction l with
  | nil => exact reads_pure []
  | cons a l ih =>
    rw [List.mapM_cons, List.mapM_cons]
    exact (reads_lift (g a)).bind fun b => ih.bind fun bs => reads_pure (b :: bs)

/-- The steps write what the function gives, and nothing when it gives a fault. -/
structure Performs (p : Procedure σ Unit) (g : σ → Except Fault σ) : Prop where
  writes : ∀ s s', g s = .ok s' → p.run.run s = (.ok (), s')
  fails : ∀ s e, g s = .error e → p.run.run s = (.error e, s)

namespace Performs

variable {p : Procedure σ Unit} {g : σ → Except Fault σ} {s : σ}

theorem left_of_ok (h : p.Performs g) {s' : σ} (hok : g s = .ok s') : p.left s = s' := by
  rw [left, h.writes s s' hok]

theorem left_of_error (h : p.Performs g) {e : Fault} (hfault : g s = .error e) : p.left s = s := by
  rw [left, h.fails s e hfault]

theorem outcome_ok_iff (h : p.Performs g) : p.outcome s = .ok () ↔ ∃ s', g s = .ok s' := by
  cases hg : g s with
  | ok s' => simp [outcome, h.writes s s' hg]
  | error e => simp [outcome, h.fails s e hg]

theorem outcome_error_iff (h : p.Performs g) {e : Fault} :
    p.outcome s = .error e ↔ g s = .error e := by
  cases hg : g s with
  | ok s' => simp [outcome, h.writes s s' hg]
  | error e' => simp [outcome, h.fails s e' hg]

end Performs

end Procedure

/-! ## Loads step by step -/

/-- The load of what is filled once: it is refused when there is something, else the table is made
and put in its place. -/
def fillOnce {σ τ : Type} (isLoaded : σ → Bool) (again : Fault) (make : Procedure σ τ)
    (put : τ → σ) : Procedure σ Unit := do
  if isLoaded (← get) then throw again
  else
    let t ← make
    set (put t)

/-- The names of all classes, then the classes one by one; the table is put in place at the end. -/
def ClassRegistry.filling (a : List ClassDecl × List String) : Procedure ClassRegistry Unit :=
  fillOnce isLoaded (.alreadyLoaded .classes)
    (do
      let roster ← a.1.foldlM (fun r c => liftM (r.enroll c)) Roster.empty
      let classes ← roster.members.mapM fun m =>
        liftM (ClassInfo.ofMember roster (a.2.map Key.of) m)
      return (⟨classes, roster.owners⟩ : ClassTable))
    fun t => ⟨some t⟩

/-- The commands one by one; the table is put in place at the end. -/
def CommandRegistry.filling (a : List CommandDecl × List String) :
    Procedure CommandRegistry Unit :=
  fillOnce isLoaded (.alreadyLoaded .commands)
    (do
      let commands ← a.1.mapM fun d => liftM (Command.ofDecl (a.2.map Key.of) d)
      return (⟨.ofList (commands.map fun c => (Key.of c.name, c))⟩ : CommandTable))
    fun t => ⟨some t⟩

theorem fillOnce_performs {σ τ : Type} {isLoaded : σ → Bool} {again : Fault}
    {make : Procedure σ τ} {x : Except Fault τ} (h : make.Reads x) (put : τ → σ) :
    (fillOnce isLoaded again make put).Performs fun s =>
      if isLoaded s then .error again else x.map put := by
  have hget : ∀ s, (fillOnce isLoaded again make put).run.run s =
      (if isLoaded s then throw again else make >>= fun t => set (put t) :
        Procedure σ Unit).run.run s := fun _ => rfl
  refine ⟨fun s s' hok => ?_, fun s e hfault => ?_⟩
  · rw [hget]
    split at hok
    · cases hok
    · rename_i hempty
      obtain ⟨t, rfl, rfl⟩ := Outcome.map_eq_ok.1 hok
      rw [if_neg hempty]
      exact h.bind_ok s
  · rw [hget]
    split at hfault
    · rename_i hfull
      cases hfault
      rw [if_pos hfull]
      rfl
    · rename_i hempty
      obtain rfl := Outcome.map_eq_error.1 hfault
      rw [if_neg hempty]
      exact h.bind_error s

theorem ClassRegistry.filling_performs (a : List ClassDecl × List String) :
    (filling a).Performs (·.load a.1 a.2) := by
  have hmake : Procedure.Reads (σ := ClassRegistry) _ (ClassTable.ofDecls a.1 a.2) :=
    (Procedure.reads_foldlM Roster.enroll a.1 Roster.empty).bind fun _ =>
      (Procedure.reads_mapM _ _).bind fun _ => Procedure.reads_pure _
  exact fillOnce_performs hmake _

theorem CommandRegistry.filling_performs (a : List CommandDecl × List String) :
    (filling a).Performs (·.load a.1 a.2) := by
  have hmake : Procedure.Reads (σ := CommandRegistry) _ (CommandTable.ofDecls a.1 a.2) :=
    (Procedure.reads_mapM _ _).bind fun _ => Procedure.reads_pure _
  exact fillOnce_performs hmake _

/-! ## Attempts in a row -/

/-- What a row of attempts leaves of `s`, each made on what the one before it has left. -/
def leftBy {σ α : Type} (fill : α → Procedure σ Unit) (s : σ) (row : List α) : σ :=
  row.foldl (fun s a => (fill a).left s) s

/-- Attempts to fill what is `empty` at first, as `load` says: one that fails changes nothing, the
first one that succeeds decides on everything, and every one after it is refused. -/
structure LoadsOnce {σ α : Type} (fill : α → Procedure σ Unit) (load : σ → α → Except Fault σ)
    (empty : σ) (again : Fault) : Prop where
  performs : ∀ a, (fill a).Performs (load · a)
  atomic : ∀ s a f, (fill a).outcome s = .error f → (fill a).left s = s
  succeeds : ∀ row a, (fill a).outcome (leftBy fill empty row) = .ok () ↔
    (∃ s, load empty a = .ok s) ∧ ∀ b ∈ row, ¬ ∃ s, load empty b = .ok s
  decides : ∀ before a after, (fill a).outcome (leftBy fill empty before) = .ok () →
    load empty a = .ok (leftBy fill empty (before ++ a :: after))
  refused : ∀ before a after b, (fill a).outcome (leftBy fill empty before) = .ok () →
    (fill b).outcome (leftBy fill empty (before ++ a :: after)) = .error again

section

variable {σ α : Type} {fill : α → Procedure σ Unit} {load : σ → α → Except Fault σ}
  {s empty : σ} {again : Fault} {a : α} {row before : List α}

theorem leftBy_cons : leftBy fill s (a :: row) = leftBy fill ((fill a).left s) row := rfl

theorem leftBy_append : leftBy fill s (before ++ row) = leftBy fill (leftBy fill s before) row :=
  List.foldl_append

theorem leftBy_full (hfill : ∀ a, (fill a).Performs (load · a))
    (hfull : ∀ b, load s b = .error again) : leftBy fill s row = s := by
  induction row with
  | nil => rfl
  | cons b row ih =>
    rw [leftBy_cons, (hfill b).left_of_error (hfull b), ih]

theorem leftBy_empty (hfill : ∀ a, (fill a).Performs (load · a))
    (hrow : ∀ b ∈ row, ¬ ∃ s, load empty b = .ok s) : leftBy fill empty row = empty := by
  induction row with
  | nil => rfl
  | cons b row ih =>
    obtain ⟨hb, hrow⟩ := List.forall_mem_cons.1 hrow
    cases hload : load empty b with
    | ok s => exact absurd ⟨s, hload⟩ hb
    | error e =>
      rw [leftBy_cons, (hfill b).left_of_error hload, ih hrow]

/-- The first attempt that succeeds on what is empty decides on what the whole row leaves. -/
theorem leftBy_first (hfill : ∀ a, (fill a).Performs (load · a))
    (hbefore : ∀ b ∈ before, ¬ ∃ s, load empty b = .ok s) (ha : load empty a = .ok s)
    (hfull : ∀ b, load s b = .error again) (after : List α) :
    leftBy fill empty (before ++ a :: after) = s := by
  rw [leftBy_append, leftBy_empty hfill hbefore, leftBy_cons, (hfill a).left_of_ok ha,
    leftBy_full hfill hfull]

/-- After a row with a good attempt every attempt is refused. The induction is on the row, whose
first good attempt fills what is empty. -/
theorem leftBy_refuses (hfill : ∀ a, (fill a).Performs (load · a))
    (hfull : ∀ a s, load empty a = .ok s → ∀ b, load s b = .error again)
    (hrow : ∃ b ∈ row, ∃ s, load empty b = .ok s) (c : α) :
    load (leftBy fill empty row) c = .error again := by
  induction row with
  | nil => obtain ⟨b, hb, -⟩ := hrow; cases hb
  | cons d row ih =>
    cases hd : load empty d with
    | ok s =>
      rw [leftBy_cons, (hfill d).left_of_ok hd, leftBy_full hfill (hfull d s hd)]
      exact hfull d s hd c
    | error e =>
      rw [leftBy_cons, (hfill d).left_of_error hd]
      refine ih ?_
      obtain ⟨b, hb, s, hs⟩ := hrow
      rcases List.mem_cons.1 hb with rfl | hb
      · rw [hd] at hs
        cases hs
      · exact ⟨b, hb, s, hs⟩

theorem loadsOnce (hfill : ∀ a, (fill a).Performs (load · a))
    (hfull : ∀ a s, load empty a = .ok s → ∀ b, load s b = .error again) :
    LoadsOnce fill load empty again := by
  have hsucceeds : ∀ row a, (fill a).outcome (leftBy fill empty row) = .ok () ↔
      (∃ s, load empty a = .ok s) ∧ ∀ b ∈ row, ¬ ∃ s, load empty b = .ok s := by
    intro row a
    rw [(hfill a).outcome_ok_iff]
    constructor
    · rintro ⟨s, hs⟩
      have hrow : ∀ b ∈ row, ¬ ∃ s, load empty b = .ok s := by
        intro b hb hgood
        rw [leftBy_refuses hfill hfull ⟨b, hb, hgood⟩] at hs
        cases hs
      rw [leftBy_empty hfill hrow] at hs
      exact ⟨⟨s, hs⟩, hrow⟩
    · rintro ⟨hgood, hrow⟩
      rw [leftBy_empty hfill hrow]
      exact hgood
  have hfirst : ∀ before a after, (fill a).outcome (leftBy fill empty before) = .ok () →
      load empty a = .ok (leftBy fill empty (before ++ a :: after)) := by
    intro before a after h
    obtain ⟨⟨s, hs⟩, hbefore⟩ := (hsucceeds before a).1 h
    rw [leftBy_first hfill hbefore hs (hfull a s hs), hs]
  refine ⟨hfill, fun s a f hf => ?_, hsucceeds, hfirst, fun before a after b h => ?_⟩
  · exact (hfill a).left_of_error ((hfill a).outcome_error_iff.1 hf)
  · exact (hfill b).outcome_error_iff.2 (hfull a _ (hfirst before a after h) b)

end

/-- **Registries are loaded once**: an attempt that fails leaves a registry as it was, the first one
that succeeds makes of it what it makes of an empty registry, and every later one is refused. -/
theorem registries_load_once :
    LoadsOnce ClassRegistry.filling (fun r a => r.load a.1 a.2) .empty (.alreadyLoaded .classes) ∧
      LoadsOnce CommandRegistry.filling (fun r a => r.load a.1 a.2) .empty
        (.alreadyLoaded .commands) := by
  refine ⟨loadsOnce ClassRegistry.filling_performs fun a r h b => ?_,
    loadsOnce CommandRegistry.filling_performs fun a r h b => ?_⟩
  · obtain ⟨t, -, rfl⟩ := ClassRegistry.load_ok_iff.1 h
    rfl
  · obtain ⟨t, -, rfl⟩ := Outcome.map_eq_ok.1 h
    rfl

open ClassRegistry (catalogue) in
/-- A catalogue that declares everything twice is refused and leaves nothing behind; the catalogue
that is loaded next stays, whatever is tried after it. -/
theorem registries_load_once_catalogue :
    ∃ r, ClassRegistry.empty.load catalogue ["item kind"] = .ok r ∧
      leftBy ClassRegistry.filling .empty
        [(catalogue ++ catalogue, []), (catalogue, ["item kind"]), ([], [])] = r ∧
      (ClassRegistry.filling ([], [])).outcome r = .error (.alreadyLoaded .classes) := by
  obtain ⟨r, hr⟩ := ClassRegistry.exists_loaded_catalogue
  have htwice : (ClassRegistry.empty.load (catalogue ++ catalogue) []).toOption = none := by
    decide +kernel
  have hbefore : ∀ b ∈ [(catalogue ++ catalogue, ([] : List String))],
      ¬ ∃ s, ClassRegistry.empty.load b.1 b.2 = .ok s := by
    rintro b hb ⟨s, hs⟩
    obtain rfl := List.mem_singleton.1 hb
    rw [hs] at htwice
    cases htwice
  have hfirst := (registries_load_once.1.succeeds _ (catalogue, ["item kind"])).2 ⟨⟨r, hr⟩, hbefore⟩
  have hleft := registries_load_once.1.decides _ _ [([], [])] hfirst
  have hrefused := registries_load_once.1.refused _ _ [([], [])] ([], []) hfirst
  obtain rfl := Except.ok.inj (hr.symm.trans hleft)
  exact ⟨_, hr, rfl, hrefused⟩

end ScriptGateway
