import Mathlib.Data.List.Forall2
import ScriptGateway.Proofs.Gateway.Requests
import ScriptGateway.Proofs.Script.Strings
import ScriptGateway.Proofs.Specifier.Names

/-!
# Names stay in their strings

The only text of a path that reaches the script of a `GET` is that of its names, and each stands in
a string of its own (`get_script_confined`): every string of the script is closed, they are the
names of the chain in order, and what stands outside them is the same for any other names.

The script is given as tokens (`scriptTokens`), one string for each step that selects by name. Steps
that differ in the name alone are `Alike`, and the tokens outside strings are the same for them.
-/

set_option autoImplicit false

namespace ScriptGateway

open Script (Token codes Plain Separable)

/-! ## Names and shapes of steps -/

namespace Step

/-- The name by which a step selects an element. -/
def name? (s : Step) : Option String :=
  match s.selection with
  | .name text => some text
  | .collection | .index _ | .objectProperty _ | .property _ => none

/-- The steps select in the same way, by any names, and lead to the same class. -/
def Alike (s s' : Step) : Prop :=
  s.target.name = s'.target.name ∧
    match s.selection, s'.selection with
    | .name _, .name _ => True
    | x, x' => x = x'

/-- What the step selects, as tokens. -/
def tokens (s : Step) : List Token :=
  match s.selection with
  | .name text => codes (s.target.name ++ " ") ++ [.text text.toList]
  | .collection | .index _ | .objectProperty _ | .property _ => codes s.phrase

variable {s s' : Step}

theorem write_tokens (s : Step) : s.tokens.flatMap Token.write = s.phrase.toList := by
  unfold tokens phrase
  cases s.selection with
  | name text =>
    rw [List.flatMap_append, Script.write_codes, List.flatMap_singleton, Script.write_text]
    simp
  | collection | index | objectProperty | property => exact Script.write_codes _

theorem text?_tokens (s : Step) : s.tokens.filterMap Token.text? = s.name?.toList := by
  unfold tokens name?
  cases s.selection with
  | name text => simp [Script.text?_codes, Token.text?]
  | collection | index | objectProperty | property => exact Script.text?_codes _

/-- The names of the class and of the property, if the step has one, open no string. -/
def Plain (s : Step) : Prop :=
  Script.Plain s.target.name ∧
    ∀ p, s.selection = .objectProperty p ∨ s.selection = .property p → Script.Plain p.name

theorem separable_tokens (h : s.Plain) : Separable s.tokens := by
  obtain ⟨hclass, hproperty⟩ := h
  have hblank : Script.Plain " " := by decide
  unfold tokens phrase
  cases hs : s.selection with
  | name text =>
    rw [Script.separable_append, Script.separable_codes, Script.plain_append]
    exact ⟨⟨hclass, hblank⟩, by simp [Separable]⟩
  | collection =>
    exact Script.separable_codes.2 (Script.plain_append.2 ⟨by decide, hclass⟩)
  | index n =>
    simp only [Script.separable_codes, Script.plain_append]
    exact ⟨⟨hclass, hblank⟩, Script.plain_toString n⟩
  | objectProperty p => exact Script.separable_codes.2 (hproperty p (.inl hs))
  | property p => exact Script.separable_codes.2 (hproperty p (.inr hs))

namespace Alike

theorem selection_cases (h : s.Alike s') : s.selection = s'.selection ∨
    ∃ text text', s.selection = .name text ∧ s'.selection = .name text' := by
  have hsel := h.2
  split at hsel
  · rename_i text text' hs hs'
    exact .inr ⟨text, text', hs, hs'⟩
  · exact .inl hsel

theorem outside_tokens (h : s.Alike s') :
    s.tokens.map Token.outside = s'.tokens.map Token.outside := by
  rcases h.selection_cases with heq | ⟨text, text', hs, hs'⟩
  · simp only [tokens, phrase, heq, h.1]
  · simp only [tokens, hs, hs', h.1, List.map_append]
    rfl

theorem narrows_eq (h : s.Alike s') : s.narrows = s'.narrows := by
  rcases h.selection_cases with heq | ⟨text, text', hs, hs'⟩
  · simp only [narrows, heq]
  · simp only [narrows, hs, hs']

theorem property?_eq (h : s.Alike s') : s.property? = s'.property? := by
  rcases h.selection_cases with heq | ⟨text, text', hs, hs'⟩
  · simp only [property?, heq]
  · simp only [property?, hs, hs']

/-- What is opened is opened by both. -/
theorem opened_eq (h : s.Alike s') :
    (if s.isCollection then some s.phrase else none) =
      if s'.isCollection then some s'.phrase else none := by
  rcases h.selection_cases with heq | ⟨text, text', hs, hs'⟩
  · have hopen : s.isCollection = s'.isCollection := by simp only [isCollection, heq]
    have hphrase : s.phrase = s'.phrase := by simp only [phrase, heq, h.1]
    rw [hopen, hphrase]
  · simp [isCollection, hs, hs']

end Alike

end Step

/-! ## Chains that differ in names alone -/

theorem bind_getLast?_eq {α β : Type} {R : α → α → Prop} {f : α → Option β} {xs ys : List α}
    (h : List.Forall₂ R xs ys) (hf : ∀ x y, R x y → f x = f y) :
    xs.getLast?.bind f = ys.getLast?.bind f := by
  induction h with
  | nil => rfl
  | cons hhead htail ih =>
    cases htail with
    | nil => simpa using hf _ _ hhead
    | cons => simpa using ih

namespace Specifier

variable {s s' : Specifier} {stem : String}

theorem collectionBefore?_of_isProperty (h : s.isProperty = true) :
    collectionBefore? s.steps = none := by
  obtain ⟨p, hp⟩ := Option.isSome_iff_exists.1 h
  obtain ⟨x, hx, hxp⟩ := Option.bind_eq_some_iff.1 hp
  have hlast : s.steps.getLast? = some x := hx
  rw [collectionBefore?_eq, hlast]
  simp [Step.isCollection, Step.property?_eq_some.1 hxp]

theorem alike_narrowing {xs ys : List Step} (h : List.Forall₂ Step.Alike xs ys) :
    List.Forall₂ Step.Alike (xs.filter (·.narrows)) (ys.filter (·.narrows)) :=
  List.rel_filter (fun _ _ hx => by simp only [hx.narrows_eq]) h

theorem reference_eq_of_alike (hstem : s.stem = s'.stem)
    (h : List.Forall₂ Step.Alike s.steps s'.steps) : s.reference = s'.reference := by
  have hproperty : s.property? = s'.property? :=
    bind_getLast?_eq h fun _ _ hx => hx.property?_eq
  have hbefore : List.Forall₂ Step.Alike s.steps.dropLast s'.steps.dropLast := by
    rw [List.dropLast_eq_take, List.dropLast_eq_take, h.length_eq]
    exact List.forall₂_take _ h
  have hevery : ∀ {xs ys : List Step}, List.Forall₂ Step.Alike xs ys →
      collectionBefore? xs = collectionBefore? ys := by
    intro xs ys hxy
    rw [collectionBefore?_eq, collectionBefore?_eq]
    exact bind_getLast?_eq hxy fun _ _ hx => hx.opened_eq
  have hcurrent : s.current = s'.current := by
    simp only [current, boundPhrases_eq, narrowing, List.length_append, List.length_map,
      (alike_narrowing h).length_eq, hevery h, hstem]
  unfold reference subject isProperty
  rw [hproperty, hevery hbefore, hcurrent]

/-! ## The script as tokens -/

/-- The bindings of steps that each select one object; the first is read of variable `n`. -/
def bindTokens (stem : String) : (n : Nat) → List Step → List Token
  | _, [] => []
  | n, s :: rest =>
    codes ("set " ++ variableName stem (n + 1) ++ " to ") ++ s.tokens ++
      codes (" of " ++ variableName stem n ++ "\n") ++ bindTokens stem (n + 1) rest

/-- The script that reads what is addressed. -/
def scriptTokens (s : Specifier) : List Token :=
  codes (Script.assign (variableName s.stem 0) rootExpression ++ "\n") ++
    bindTokens s.stem 0 (s.steps.filter (·.narrows)) ++ codes (Script.answer s.reference)

theorem ofLines_toList (lines : List String) (last : String) :
    (Script.ofLines (lines ++ [last])).toList =
      lines.flatMap (fun l => l.toList ++ ['\n']) ++ last.toList := by
  induction lines with
  | nil => rfl
  | cons l lines ih =>
    have hcons : Script.ofLines (l :: lines ++ [last]) =
        l ++ "\n" ++ Script.ofLines (lines ++ [last]) := by
      cases lines <;> rfl
    rw [hcons, String.toList_append, String.toList_append, ih, List.flatMap_cons]
    simp

theorem write_bindTokens (stem : String) (n : Nat) (steps : List Step) :
    (bindTokens stem n steps).flatMap Token.write =
      ((bindFrom stem n (steps.map (·.phrase))).map (·.line)).flatMap
        (fun l => l.toList ++ ['\n']) := by
  induction steps generalizing n with
  | nil => rfl
  | cons x rest ih =>
    simp only [bindTokens, List.flatMap_append, Script.write_codes, Step.write_tokens, ih,
      List.map_cons, bindFrom, List.flatMap_cons, Script.Binding.line, Script.assign, ofWhole]
    simp

/-- A script that reads a property is what its tokens are written as. -/
theorem write_scriptTokens (h : collectionBefore? s.steps = none) :
    s.scriptTokens.flatMap Token.write = s.readScript.toList := by
  -- no collection is bound, since a property ends the chain
  have hphrases : boundPhrases s.steps = (s.steps.filter (·.narrows)).map (·.phrase) := by
    simp [boundPhrases_eq, narrowing, h]
  rw [readScript, ofLines_toList, statements, bindings, hphrases, scriptTokens]
  simp only [List.flatMap_append, Script.write_codes, write_bindTokens, List.map_cons,
    List.flatMap_cons, Script.Binding.line]
  simp

/-- The strings of the bindings are the names of the steps. -/
theorem text?_bindTokens (stem : String) (n : Nat) (steps : List Step) :
    (bindTokens stem n steps).filterMap Token.text? = steps.filterMap (·.name?) := by
  induction steps generalizing n with
  | nil => rfl
  | cons x rest ih =>
    simp only [bindTokens, List.filterMap_append, Script.text?_codes, Step.text?_tokens, ih]
    cases hx : x.name? <;> simp [hx]

theorem text?_scriptTokens (s : Specifier) :
    s.scriptTokens.filterMap Token.text? = s.steps.filterMap (·.name?) := by
  simp only [scriptTokens, List.filterMap_append, Script.text?_codes, text?_bindTokens,
    List.filterMap_filter, List.nil_append, List.append_nil]
  -- a step that selects by name binds a variable, so no name is passed over
  refine List.filterMap_congr fun x _ => ?_
  unfold Step.narrows Step.name?
  cases x.selection <;> rfl

theorem plain_ofWhole {what whole : String} (hwhat : Plain what) (hwhole : Plain whole) :
    Plain (ofWhole what whole) :=
  Script.plain_append.2 ⟨Script.plain_append.2 ⟨hwhat, by decide⟩, hwhole⟩

theorem plain_variableName (hstem : Plain stem) (n : Nat) : Plain (variableName stem n) :=
  Script.plain_append.2 ⟨hstem, Script.plain_toString n⟩

theorem separable_bindTokens (hstem : Plain stem) {steps : List Step}
    (h : ∀ x ∈ steps, x.Plain) (n : Nat) : Separable (bindTokens stem n steps) := by
  induction steps generalizing n with
  | nil => simp [bindTokens, Separable]
  | cons x rest ih =>
    obtain ⟨hx, hrest⟩ := List.forall_mem_cons.1 h
    simp only [bindTokens, Script.separable_append, Script.separable_codes, Script.plain_append]
    exact ⟨⟨⟨⟨⟨by decide, plain_variableName hstem _⟩, by decide⟩,
      Step.separable_tokens hx⟩, ⟨by decide, plain_variableName hstem _⟩,
      by decide⟩, ih hrest _⟩

theorem plain_reference (hstem : Plain s.stem) (h : ∀ x ∈ s.steps, x.Plain) :
    Plain s.reference :=
  reference_of_named plain_ofWhole
    (fun hname => Script.plain_append.2 ⟨by decide, hname⟩) (plain_variableName hstem _) h

theorem separable_scriptTokens (hstem : Plain s.stem) (h : ∀ x ∈ s.steps, x.Plain) :
    Separable s.scriptTokens := by
  have hroot : Plain rootExpression := by decide
  simp only [scriptTokens, Script.assign, Script.answer, Script.separable_append,
    Script.separable_codes, Script.plain_append]
  exact ⟨⟨⟨⟨⟨⟨by decide, plain_variableName hstem _⟩, by decide⟩, hroot⟩,
    by decide⟩, separable_bindTokens hstem (fun x hx => h x (List.mem_of_mem_filter hx)) _⟩,
    by decide, plain_reference hstem h⟩

theorem outside_bindTokens {steps steps' : List Step} (h : List.Forall₂ Step.Alike steps steps')
    (n : Nat) : (bindTokens stem n steps).map Token.outside =
      (bindTokens stem n steps').map Token.outside := by
  induction h generalizing n with
  | nil => rfl
  | cons hx _ ih => simp only [bindTokens, List.map_append, hx.outside_tokens, ih]

/-- The text outside strings does not depend on the names. -/
theorem outside_scriptTokens (hstem : s.stem = s'.stem)
    (h : List.Forall₂ Step.Alike s.steps s'.steps) :
    s.scriptTokens.map Token.outside = s'.scriptTokens.map Token.outside := by
  simp only [scriptTokens, List.map_append, outside_bindTokens (alike_narrowing h), hstem,
    reference_eq_of_alike hstem h]

end Specifier

/-! ## Plain tables -/

/-- No class and no property has a name with a double quote in it. -/
def ClassTable.Plain (t : ClassTable) : Prop :=
  ∀ c ∈ t.classes, Script.Plain c.name ∧ ∀ p ∈ c.properties.values, Script.Plain p.name

instance (t : ClassTable) : Decidable t.Plain := inferInstanceAs (Decidable (∀ c ∈ t.classes, _))

namespace Walk

variable {t : ClassTable} {current : ClassInfo} {pending isLast : Bool} {segment : String}
  {s : Step}

/-- The name of a step is its segment, or what stands in the quotes around it. -/
theorem Move.name?_eq (h : Move t current pending segment isLast s) {name : String}
    (hname : s.name? = some name) : name = (Path.quotedName? s.segment).getD s.segment := by
  cases h with
  | quoted _ _ hq =>
    rw [hq]
    exact (Option.some.inj hname).symm
  | bare _ _ hq =>
    rw [hq]
    exact (Option.some.inj hname).symm
  | index | across | property | collection | descend => cases hname

theorem Leads.plain {segments : List String} {steps : List Step}
    (h : Leads t current pending segments steps) (ht : t.Plain)
    (hc : t.named? current.name = some current) :
    ∀ x ∈ steps, x.Plain ∧
      ∀ name, x.name? = some name → name = (Path.quotedName? x.segment).getD x.segment := by
  induction h with
  | here => simp
  | next hm _ ih =>
    exact List.forall_mem_cons.2
      ⟨⟨hm.named ht hc, fun _ hname => hm.name?_eq hname⟩, ih (hm.registered hc)⟩

end Walk

/-! ## Scripts of `GET` requests -/

theorem Specifier.isProperty_of_alike {s s' : Specifier}
    (h : List.Forall₂ Step.Alike s.steps s'.steps) (hp : s.isProperty = true) :
    s'.isProperty = true := by
  have hproperty : s.property? = s'.property? :=
    bind_getLast?_eq h fun _ _ hx => hx.property?_eq
  rw [isProperty, ← hproperty]
  exact hp

theorem tokens?_readScript {r : ClassRegistry} {t : ClassTable} {path : String} {s : Specifier}
    (ht : r.table? = some t) (hplain : t.Plain) (h : resolve r path pathStem = .ok s)
    (hp : s.isProperty = true) : Script.tokens? s.readScript = some s.scriptTokens := by
  obtain ⟨t', ht', -, hroot, -, hstem, hl⟩ := resolve_ok_iff.1 h
  obtain rfl : t = t' := Option.some.inj (ht.symm.trans ht')
  have hsteps := hl.plain hplain (ClassTable.named?_of_lookup? hroot)
  have hstemPlain : Plain s.stem := by
    rw [hstem]
    decide +kernel
  exact Script.tokens?_write
    (Specifier.separable_scriptTokens hstemPlain fun x hx => (hsteps x hx).1)
    (Specifier.write_scriptTokens (Specifier.collectionBefore?_of_isProperty hp)).symm

/-- **Names stay in their strings**: every string of a `GET` script is closed, the strings are the
names of the chain in order, and the text outside them is that of every other path whose chain
differs in the names alone. -/
theorem get_script_confined {r : ClassRegistry} {t : ClassTable} {path : String} {s : Specifier}
    (ht : r.table? = some t) (hplain : t.Plain) (h : resolve r path pathStem = .ok s)
    (hp : s.isProperty = true) (commands : CommandRegistry) (params : OrderedMap String String) :
    Request.script r commands ⟨.get, path, params⟩ = .ok s.readScript ∧
      ∃ ts, Script.tokens? s.readScript = some ts ∧
        ts.filterMap Token.text? = s.steps.filterMap (·.name?) ∧
        (∀ x ∈ s.steps, ∀ name, x.name? = some name →
          name = (Path.quotedName? x.segment).getD x.segment) ∧
        ∀ path' s', resolve r path' pathStem = .ok s' →
          List.Forall₂ Step.Alike s.steps s'.steps →
          ∃ ts', Script.tokens? s'.readScript = some ts' ∧
            ts'.map Token.outside = ts.map Token.outside := by
  obtain ⟨t', ht', -, hroot, -, hstem, hl⟩ := resolve_ok_iff.1 h
  obtain rfl : t = t' := Option.some.inj (ht.symm.trans ht')
  have hsteps := hl.plain hplain (ClassTable.named?_of_lookup? hroot)
  refine ⟨Request.script_get h hp, s.scriptTokens, tokens?_readScript ht hplain h hp,
    s.text?_scriptTokens, fun x hx => (hsteps x hx).2, fun path' s' h' halike => ?_⟩
  obtain ⟨-, -, -, -, -, hstem', -⟩ := resolve_ok_iff.1 h'
  exact ⟨s'.scriptTokens,
    tokens?_readScript ht hplain h' (Specifier.isProperty_of_alike halike hp),
    (Specifier.outside_scriptTokens (hstem.trans hstem'.symm) halike).symm⟩

/-- Names that look like the end of a string, with a backslash at the end and in quotes. -/
theorem get_script_confined_tricky_names :
    ∃ r t s ts, ClassRegistry.empty.load shelf [] = .ok r ∧ r.table? = some t ∧ t.Plain ∧
      resolve r "/playlists/\" of it\\/tracks/'\"x'/name" pathStem = .ok s ∧
      s.isProperty = true ∧ Script.tokens? s.readScript = some ts ∧
      ts.filterMap Token.text? = ["\" of it\\", "\"x"] := by
  have hchain : ((ClassRegistry.empty.load shelf []).toOption.bind fun r => r.table?.bind fun t =>
      (resolve r "/playlists/\" of it\\/tracks/'\"x'/name" pathStem).toOption.bind fun s =>
        if t.Plain ∧ s.isProperty then some (s.steps.filterMap (·.name?)) else none) =
      some ["\" of it\\", "\"x"] := by decide +kernel
  obtain ⟨r, hr, hchain⟩ := Option.bind_eq_some_iff.1 hchain
  obtain ⟨t, ht, hchain⟩ := Option.bind_eq_some_iff.1 hchain
  obtain ⟨s, hs, hchain⟩ := Option.bind_eq_some_iff.1 hchain
  obtain ⟨⟨hplain, hp⟩, hnames⟩ := Option.ite_none_right_eq_some.1 hchain
  have hs := Outcome.toOption_eq_some.1 hs
  obtain ⟨-, ts, hts, htexts, -⟩ := get_script_confined ht hplain hs hp .empty .empty
  exact ⟨r, t, s, ts, Outcome.toOption_eq_some.1 hr, ht, hplain, hs, hp, hts,
    htexts.trans (Option.some.inj hnames)⟩

end ScriptGateway
