import Mathlib.Data.List.Induction
import Mathlib.Data.List.Nodup
import ScriptGateway.Proofs.Specifier.Typing
import ScriptGateway.Proofs.Specifier.Variables

/-!
# The expression behind a chain

`Specifier.nested` is what a chain addresses, written as one expression `X of Y of ... of it` that
is read off its steps and knows nothing of variables. The script of the chain says the same with
variables (`Specifier.Scripted`): it binds each variable once, to something of the one before it,
and writing out the variable at the end of the reference, from the last binding up to the first,
gives back the nested expression. Every followed path has such a script (`resolve_scripted`).

The two part a chain differently: `boundPhrases` skips the collections and the property at the end,
`phrases` only the collections of which an element is selected next. That they agree on a followed
path (`phrases_eq`) rests on its typing: a collection is followed by an element of it, by a property
that ends the chain, or by nothing.
-/

set_option autoImplicit false

namespace ScriptGateway

/-- The step selects one element of a collection. -/
def Step.isElement (s : Step) : Bool :=
  match s.selection with
  | .index _ | .name _ => true
  | .collection | .objectProperty _ | .property _ => false

namespace Specifier

/-- The phrases of a chain, the first of which is read of the root. A collection of which an element
is selected next has none of its own. -/
def phrases : List Step → List String
  | [] => []
  | [s] => [s.phrase]
  | s :: t :: rest =>
    if s.isCollection && t.isElement then phrases (t :: rest) else s.phrase :: phrases (t :: rest)

/-- The phrases read of a whole, each of what the one before it gives. -/
def nest (whole : String) (ps : List String) : String := ps.foldl (fun w p => ofWhole p w) whole

/-- What the chain addresses, as one expression. -/
def nested (s : Specifier) : String := nest rootExpression (phrases s.steps)

/-! ## Nested phrases -/

/-- The text of nested phrases in front of the whole that they are read of. -/
def nestFront : List String → String
  | [] => ""
  | p :: ps => nestFront ps ++ (p ++ " of ")

theorem nest_eq_append (whole : String) (ps : List String) :
    nest whole ps = nestFront ps ++ whole := by
  induction ps generalizing whole with
  | nil => simp [nest, nestFront]
  | cons p ps ih =>
    have hcons : nest whole (p :: ps) = nest (ofWhole p whole) ps := rfl
    rw [hcons, ih, nestFront, ofWhole]
    simp only [String.append_assoc]

theorem nest_append (whole : String) (ps qs : List String) :
    nest whole (ps ++ qs) = nest (nest whole ps) qs := List.foldl_append

/-! ## The phrases of a followed path -/

/-- The phrases that a property at the end of a chain is read by, of the last variable. -/
def readPhrases (steps : List Step) : List String :=
  match steps.getLast?.bind (·.property?) with
  | some p => (collectionBefore? steps.dropLast).toList ++ [p.name]
  | none => []

theorem reference_eq_nest (s : Specifier) : s.reference = nest s.current (readPhrases s.steps) := by
  have hp : s.property? = s.steps.getLast?.bind (·.property?) := rfl
  unfold reference subject isProperty readPhrases
  rw [← hp]
  cases s.property? with
  | none => rfl
  | some p => cases collectionBefore? s.steps.dropLast <;> rfl

theorem readPhrases_cons (s u : Step) (rest : List Step)
    (h : s.isCollection = false ∨ u.property? = none ∨ rest ≠ []) :
    readPhrases (s :: u :: rest) = readPhrases (u :: rest) := by
  have hlast : (s :: u :: rest).getLast? = (u :: rest).getLast? := by simp
  cases rest with
  | nil =>
    cases hu : u.property? with
    | none => simp [readPhrases, hu]
    | some p =>
      have hs : s.isCollection = false := by simpa [hu] using h
      simp [readPhrases, hu, collectionBefore?, hs]
  | cons v rest =>
    have hbefore : collectionBefore? (s :: u :: v :: rest).dropLast =
        collectionBefore? (u :: v :: rest).dropLast := by
      cases rest <;> rfl
    rw [readPhrases, readPhrases, hlast, hbefore]

theorem phrases_singleton (s : Step) : phrases [s] = boundPhrases [s] ++ readPhrases [s] := by
  unfold phrases boundPhrases readPhrases Step.phrase Step.narrows Step.isCollection
  cases hs : s.selection <;> simp [Step.property?, hs, collectionBefore?]

end Specifier

namespace Walk

variable {t : ClassTable} {current : ClassInfo} {pending : Bool} {segment : String} {s : Step}

theorem Move.narrows_or_collection (h : Move t current pending segment false s) :
    s.isCollection = !s.narrows := by
  cases h <;> rfl

theorem Move.in_collection {isLast : Bool} (h : Move t current true segment isLast s) :
    (s.isElement = true ∧ s.narrows = true ∧ s.property? = none) ∨
      (isLast = true ∧ ∃ p, s.selection = .property p) := by
  cases h with
  | index | quoted | bare => exact .inl ⟨rfl, rfl, rfl⟩
  | across => exact .inr ⟨rfl, _, rfl⟩

end Walk

namespace Specifier

/-- **The phrases of a followed path** are those that variables are bound to and those that the
reference adds. The induction is on the path; a collection is the only step that has to look at the
one after it. -/
theorem phrases_eq {t : ClassTable} {current : ClassInfo} {pending : Bool}
    {segments : List String} {steps : List Step}
    (h : Walk.Leads t current pending segments steps) :
    phrases steps = boundPhrases steps ++ readPhrases steps := by
  induction h with
  | here => rfl
  | @next current pending segment rest s more hm hrest ih =>
    cases hrest with
    | here => exact phrases_singleton s
    | @next _ _ segment' rest' u more hu hmore =>
      have hkind := hm.narrows_or_collection
      cases hn : s.narrows with
      | true =>
        have hc : s.isCollection = false := by rw [hkind, hn]; rfl
        rw [readPhrases_cons s u more (.inl hc)]
        simp [phrases, boundPhrases, hc, hn, ih]
      | false =>
        have hc : s.isCollection = true := by rw [hkind, hn]; rfl
        rw [hc] at hu
        rcases hu.in_collection with ⟨he, -, hp⟩ | ⟨hlast, p, hp⟩
        · rw [readPhrases_cons s u more (.inr (.inl hp))]
          simp [phrases, boundPhrases, hc, hn, he, ih]
        · -- the property ends the path
          obtain rfl : rest' = [] := by simpa using hlast
          cases hmore
          have hs : s.selection = .collection := by simpa [Step.isCollection] using hc
          simp [phrases, boundPhrases, readPhrases, collectionBefore?, Step.isElement,
            Step.property?, Step.narrows, Step.isCollection, Step.phrase, hs, hp]

/-! ## The bindings of a chain -/

theorem bindFrom_append (stem : String) (n : Nat) (ps qs : List String) :
    bindFrom stem n (ps ++ qs) = bindFrom stem n ps ++ bindFrom stem (n + ps.length) qs := by
  induction ps generalizing n with
  | nil => rfl
  | cons p ps ih =>
    have hlen : n + 1 + ps.length = n + (p :: ps).length := by simp; omega
    rw [List.cons_append, bindFrom, bindFrom, ih, hlen, List.cons_append]

theorem names_bindFrom (stem : String) (n : Nat) (ps : List String) :
    (bindFrom stem n ps).map (·.name) =
      (List.range' (n + 1) ps.length).map (variableName stem) := by
  induction ps generalizing n with
  | nil => rfl
  | cons p ps ih => simp [bindFrom, ih, List.range'_succ]

theorem getElem?_bindFrom (stem : String) (n : Nat) (ps : List String) (i : Nat) :
    (bindFrom stem n ps)[i]? = ps[i]?.map fun p =>
      ⟨variableName stem (n + i + 1), ofWhole p (variableName stem (n + i))⟩ := by
  induction ps generalizing n i with
  | nil => simp [bindFrom]
  | cons p ps ih =>
    cases i with
    | zero => rfl
    | succ i => simp [bindFrom, ih, Nat.add_right_comm n 1, Nat.add_assoc]

/-- The variables that the script of a specifier binds, in order. -/
def names (s : Specifier) : List String :=
  (List.range s.bindings.length).map (variableName s.stem)

theorem length_bindings (s : Specifier) :
    s.bindings.length = (boundPhrases s.steps).length + 1 := by
  have hlen := congrArg List.length (names_bindFrom s.stem 0 (boundPhrases s.steps))
  simpa [bindings] using hlen

theorem names_bindings (s : Specifier) : s.bindings.map (·.name) = s.names := by
  rw [names, length_bindings, List.range_eq_range', List.range'_succ]
  simp [bindings, names_bindFrom]

theorem names_nodup (s : Specifier) : s.names.Nodup :=
  List.Nodup.map (fun _ _ h => variableName_inj h) List.nodup_range

theorem getLast?_names (s : Specifier) : s.names.getLast? = some s.current := by
  rw [names, length_bindings, List.range_succ, List.map_append, List.map_cons, List.map_nil,
    List.getLast?_append_of_ne_nil _ (by simp)]
  rfl

/-- Each line after the first binds the next variable to something of the one bound before it. -/
theorem getElem?_statements_succ (s : Specifier) {i : Nat} {line : String}
    (h : s.statements[i + 1]? = some line) :
    ∃ what, line =
      Script.assign (variableName s.stem (i + 1)) (ofWhole what (variableName s.stem i)) := by
  have hb : (bindFrom s.stem 0 (boundPhrases s.steps))[i]?.map (·.line) = some line := by
    simpa [statements, bindings] using h
  rw [getElem?_bindFrom, Option.map_map] at hb
  obtain ⟨what, -, hline⟩ := Option.map_eq_some_iff.1 hb
  refine ⟨what, ?_⟩
  rw [← hline, Nat.zero_add]
  rfl

/-! ## What the steps record -/

/-- The phrases of the steps that select one object. -/
def narrowing (steps : List Step) : List String := (steps.filter (·.narrows)).map (·.phrase)

theorem narrowing_cons (s : Step) (rest : List Step) :
    narrowing (s :: rest) = if s.narrows then s.phrase :: narrowing rest else narrowing rest := by
  cases hn : s.narrows with
  | true => simp [narrowing, hn]
  | false => simp [narrowing, hn]

theorem boundPhrases_eq (steps : List Step) :
    boundPhrases steps = narrowing steps ++ (collectionBefore? steps).toList := by
  induction steps with
  | nil => rfl
  | cons s rest ih =>
    cases rest with
    | nil =>
      unfold boundPhrases collectionBefore? narrowing Step.narrows Step.isCollection
      cases hs : s.selection <;> simp [hs]
    | cons u rest =>
      have hlast : collectionBefore? (s :: u :: rest) = collectionBefore? (u :: rest) := rfl
      rw [boundPhrases, narrowing_cons, ih, hlast]
      cases s.narrows <;> rfl

/-- The phrase of the last step of a row, if that opens a collection. -/
theorem collectionBefore?_eq (steps : List Step) :
    collectionBefore? steps =
      steps.getLast?.bind fun x => if x.isCollection then some x.phrase else none := by
  induction steps with
  | nil => rfl
  | cons x rest ih =>
    cases rest with
    | nil => rfl
    | cons y rest => simpa [collectionBefore?] using ih

/-- The expressions that the steps record which select one object. -/
def narrowed (stem : String) (n : Nat) (steps : List Step) : List String :=
  ((expressions stem n steps).filter (·.1.narrows)).map (·.2)

theorem narrowed_cons (stem : String) (n : Nat) (s : Step) (rest : List Step) :
    narrowed stem n (s :: rest) =
      if s.narrows then ofWhole s.phrase (variableName stem n) :: narrowed stem (n + 1) rest
      else narrowed stem n rest := by
  cases hn : s.narrows with
  | true => simp [narrowed, expressions, hn]
  | false => simp [narrowed, expressions, hn]

theorem narrowed_eq (stem : String) (n : Nat) (steps : List Step) :
    narrowed stem n steps = (bindFrom stem n (narrowing steps)).map (·.expression) := by
  induction steps generalizing n with
  | nil => rfl
  | cons s rest ih =>
    rw [narrowed_cons, narrowing_cons, ih, ih]
    cases s.narrows <;> rfl

/-- The bound expressions are the root, those that the narrowing steps record, and the collection
that ends the chain, if one does. -/
theorem expressions_bindings (s : Specifier) :
    s.bindings.map (·.expression) = rootExpression :: (narrowed s.stem 0 s.steps ++
      ((collectionBefore? s.steps).map fun every =>
        ofWhole every (variableName s.stem (narrowed s.stem 0 s.steps).length)).toList) := by
  have hlen : (narrowed s.stem 0 s.steps).length = 0 + (narrowing s.steps).length := by
    have h := congrArg List.length (names_bindFrom s.stem 0 (narrowing s.steps))
    rw [narrowed_eq, List.length_map, Nat.zero_add]
    simpa using h
  rw [bindings, List.map_cons, boundPhrases_eq, bindFrom_append, List.map_append, ← narrowed_eq,
    ← hlen]
  cases collectionBefore? s.steps <;> rfl

/-! ## Writing out -/

/-- Writing out goes up the bindings and leaves the phrases nested. -/
theorem writtenOut?_bindFrom (stem front : String) (ps : List String) :
    Script.writtenOut? (⟨variableName stem 0, rootExpression⟩ :: bindFrom stem 0 ps)
        (front ++ variableName stem ps.length) =
      some (front ++ nest rootExpression ps) := by
  induction ps using List.reverseRecOn generalizing front with
  | nil => exact Script.writtenOut?_append [] ⟨variableName stem 0, rootExpression⟩ front
  | append_singleton ps p ih =>
    have hlen : (ps ++ [p]).length = ps.length + 1 := by simp
    have hfront : front ++ ofWhole p (variableName stem ps.length) =
        front ++ (p ++ " of ") ++ variableName stem ps.length := by
      simp only [ofWhole, String.append_assoc]
    rw [bindFrom_append, Nat.zero_add, ← List.cons_append, hlen, bindFrom, bindFrom,
      Script.writtenOut?_append, hfront, ih, nest_append]
    simp only [nest, List.foldl_cons, List.foldl_nil, ofWhole, String.append_assoc]

theorem writtenOut?_reference (s : Specifier)
    (h : phrases s.steps = boundPhrases s.steps ++ readPhrases s.steps) :
    Script.writtenOut? s.bindings s.reference = some s.nested := by
  rw [reference_eq_nest, nest_eq_append, current, bindings, writtenOut?_bindFrom, nested, h,
    nest_append, ← nest_eq_append]

/-- The script of a specifier says what its steps say (module doc). -/
structure Scripted (s : Specifier) : Prop where
  first : s.statements[0]? = some ("set " ++ s.stem ++ "0 to it")
  next : ∀ i line, s.statements[i + 1]? = some line → ∃ what, line =
    "set " ++ (s.stem ++ toString (i + 1)) ++ " to " ++ (what ++ " of " ++ (s.stem ++ toString i))
  names : s.bindings.map (·.name) = s.names
  nodup : s.names.Nodup
  current : s.names.getLast? = some s.current
  expressions : s.bindings.map (·.expression) = rootExpression :: (narrowed s.stem 0 s.steps ++
    ((collectionBefore? s.steps).map fun every =>
      ofWhole every (variableName s.stem (narrowed s.stem 0 s.steps).length)).toList)
  writtenOut : Script.writtenOut? s.bindings s.reference = some s.nested

theorem scripted_of_phrases_eq {s : Specifier}
    (h : phrases s.steps = boundPhrases s.steps ++ readPhrases s.steps) : s.Scripted where
  first := by
    show some ("set " ++ (s.stem ++ "0") ++ " to " ++ "it") = _
    simp [String.append_assoc]
  next := fun _ _ hline => s.getElem?_statements_succ hline
  names := s.names_bindings
  nodup := s.names_nodup
  current := s.getLast?_names
  expressions := s.expressions_bindings
  writtenOut := s.writtenOut?_reference h

end Specifier

/-- **The script of a followed path says what its steps say.** The first line binds the root, each
later one a variable of its own to something of the variable before it; the bound expressions are
the ones that the steps record; and the reference, written out, is the nested expression. -/
theorem resolve_scripted {r : ClassRegistry} {path stem : String} {s : Specifier}
    (h : resolve r path stem = .ok s) : s.stem = stem ∧ s.Scripted := by
  obtain ⟨t, -, -, -, -, hstem, hl⟩ := resolve_ok_iff.1 h
  exact ⟨hstem, Specifier.scripted_of_phrases_eq (Specifier.phrases_eq hl)⟩

theorem resolve_scripted_name_of_parent :
    ∃ r s, ClassRegistry.empty.load shelf [] = .ok r ∧
      resolve r "/playlists/2/parent/name" "list" = .ok s ∧ s.stem = "list" ∧ s.Scripted := by
  obtain ⟨r, s, hr, hs⟩ :=
    exists_followed shelf "/playlists/2/parent/name" "list" (by decide +kernel)
  obtain ⟨hstem, hscript⟩ := resolve_scripted hs
  exact ⟨r, s, hr, hs, hstem, hscript⟩

end ScriptGateway
