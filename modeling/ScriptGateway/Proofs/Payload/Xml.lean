import ScriptGateway.Markup.Reader
import ScriptGateway.Payload.Xml
import ScriptGateway.Proofs.Markup.Scan

/-!
# Reading what was written

The text of an element is read back from what it was written as, and so is a row of elements
(`reads_xmlText`, `Reads.xmlElement`). The reader takes a text apart at the characters that were
escaped; `Spells` puts the pieces together again. Escaping neither hides a line end nor makes one
(`relined_xmlText`), so a text is read back as if its own line ends had been made line feeds.
-/

set_option autoImplicit false

namespace ScriptGateway

open Markup Text

namespace Payload

/-! ## Escaped text -/

/-- A character that stands for itself. -/
def isPlain (c : Char) : Bool := c ≠ '&' && c ≠ '<' && c ≠ '>'

theorem xmlChar_of_isPlain {c : Char} (h : isPlain c = true) : xmlChar c = [c] := by
  simp only [isPlain, Bool.and_eq_true, decide_eq_true_eq] at h
  rw [xmlChar, if_neg h.1.1, if_neg h.1.2, if_neg h.2]

/-- The other characters are written by their names. -/
theorem xmlChar_of_not_isPlain {c : Char} (h : isPlain c = false) :
    ∃ name, xmlChar c = '&' :: (name.toList ++ [';']) ∧ isLetterName name = true ∧
      predefined? name = some c := by
  simp only [isPlain, Bool.and_eq_false_iff, decide_eq_false_iff_not, Decidable.not_not] at h
  rcases h with (rfl | rfl) | rfl
  · exact ⟨"amp", rfl, rfl, rfl⟩
  · exact ⟨"lt", rfl, rfl, rfl⟩
  · exact ⟨"gt", rfl, rfl, rfl⟩

theorem xmlChar_ne_nil (c : Char) : xmlChar c ≠ [] := by
  cases hc : isPlain c with
  | true => simp [xmlChar_of_isPlain hc]
  | false =>
    obtain ⟨name, hwritten, -⟩ := xmlChar_of_not_isPlain hc
    simp [hwritten]

theorem xmlText_cons (c : Char) (cs : List Char) : xmlText (c :: cs) = xmlChar c ++ xmlText cs :=
  List.flatMap_cons

theorem xmlText_append (cs ds : List Char) : xmlText (cs ++ ds) = xmlText cs ++ xmlText ds :=
  List.flatMap_append

theorem length_le_length_xmlText (cs : List Char) : cs.length ≤ (xmlText cs).length := by
  induction cs with
  | nil => exact Nat.le_refl 0
  | cons c cs ih =>
    have hchar := List.length_pos_iff.2 (xmlChar_ne_nil c)
    rw [xmlText_cons, List.length_cons, List.length_append]
    omega

theorem xmlText_of_isPlain {cs : List Char} (h : ∀ c ∈ cs, isPlain c = true) : xmlText cs = cs := by
  induction cs with
  | nil => rfl
  | cons c cs ih =>
    rw [xmlText_cons, xmlChar_of_isPlain (h c List.mem_cons_self),
      ih fun d hd => h d (List.mem_cons_of_mem _ hd)]
    rfl

theorem xmlElement_eq_cons (tag : String) (content : List Char) :
    xmlElement tag content = '<' :: (xmlElement tag content).tail := by
  unfold xmlElement
  split
  · rfl
  · rfl

theorem exists_tail_xmlElement_eq_cons {tag : String} (htag : isLetterName tag = true)
    (content rest : List Char) :
    ∃ c more, isAsciiLetter c = true ∧ (xmlElement tag content).tail ++ rest = c :: more := by
  obtain ⟨c, letters, hletters, hc, -⟩ := exists_cons_of_isLetterName htag
  unfold xmlElement
  split
  · exact ⟨c, letters ++ " />".toList ++ rest, hc, by simp [hletters]⟩
  · exact ⟨c, letters ++ '>' :: (content ++ '<' :: '/' :: (tag.toList ++ ['>'])) ++ rest, hc,
      by simp [hletters]⟩

theorem length_xmlElement (tag : String) (content : List Char) :
    content.length + 3 < (xmlElement tag content).length := by
  unfold xmlElement
  split
  · rename_i h
    simp [List.isEmpty_iff.1 h]
  · simp
    omega

end Payload

namespace Markup

open Payload

theorem isPlainText_of_isPlain {cs : List Char} (h : ∀ c ∈ cs, isPlain c = true) :
    isPlainText cs = true := by
  induction cs with
  | nil => rfl
  | cons c cs ih =>
    have hend : startsWith "]]>" (c :: cs) = false := by
      rw [startsWith, Bool.eq_false_iff]
      intro hword
      have hmem := (List.isPrefixOf_iff_prefix.1 hword).subset (show '>' ∈ "]]>".toList by decide)
      exact absurd (h _ hmem) (by decide)
    rw [isPlainText, hend, ih fun d hd => h d (List.mem_cons_of_mem _ hd)]
    rfl

/-- Content without elements, and its characters. -/
inductive Spells : List Node → List Char → Prop
  | nil : Spells [] []
  | cons {nodes : List Node} {cs : List Char} (s : String) (h : Spells nodes cs) :
    Spells (.text s :: nodes) (s.toList ++ cs)

variable [NameLetters] {d : Declarations} {expand : Expansion} {scope : Scope}

theorem readContent?_end (fuel : Nat) (rest : List Char) :
    readContent? d expand (fuel + 1) scope ('<' :: '/' :: rest) =
      some ([], '<' :: '/' :: rest) := by
  rw [readContent?]

theorem readContent?_reference {name : String} {c : Char} (hname : isLetterName name = true)
    (hc : predefined? name = some c) (fuel : Nat) (rest : List Char) :
    readContent? d expand (fuel + 1) scope ('&' :: (name.toList ++ ';' :: rest)) =
      (readContent? d expand fuel scope rest).map fun p =>
        (.text (String.singleton c) :: p.1, p.2) := by
  rw [readContent?, readReference?_append hname hc]

theorem readContent?_run {run : List Char} (hne : run ≠ []) (hrun : ∀ c ∈ run, isPlain c = true)
    {rest : List Char} (hrest : ∀ c ∈ rest.head?, c = '<' ∨ c = '&') (fuel : Nat) :
    readContent? d expand (fuel + 1) scope (run ++ rest) =
      (readContent? d expand fuel scope rest).map fun p =>
        (.text (String.ofList run) :: p.1, p.2) := by
  have hpart : ∀ c ∈ run, (decide (c ≠ '<') && decide (c ≠ '&')) = true := by
    intro c hc
    have h := hrun c hc
    simp only [isPlain, Bool.and_eq_true] at h
    rw [h.1.1, h.1.2]
    rfl
  have htake : (run ++ rest).takeWhile (fun c => decide (c ≠ '<') && decide (c ≠ '&')) = run := by
    rw [List.takeWhile_append_of_pos hpart]
    cases rest with
    | nil => exact List.append_nil run
    | cons c rest => rcases hrest c rfl with rfl | rfl <;> simp
  have hdrop : (run ++ rest).dropWhile (fun c => decide (c ≠ '<') && decide (c ≠ '&')) = rest := by
    rw [List.dropWhile_append_of_pos hpart]
    cases rest with
    | nil => rfl
    | cons c rest => rcases hrest c rfl with rfl | rfl <;> simp
  have hfirst : ∀ c ∈ (run ++ rest).head?, isPlain c = true := by
    cases run with
    | nil => exact absurd rfl hne
    | cons c run => exact fun d hd => Option.mem_some.1 hd ▸ hrun c List.mem_cons_self
  rw [readContent?]
  · simp only [htake, hdrop, isPlainText_of_isPlain hrun, if_true]
  · intro hnil
    exact hne (List.append_eq_nil_iff.1 hnil).1
  · intro more hmore
    exact absurd (hfirst _ (by rw [hmore]; rfl)) (by decide)
  · intro more hmore
    exact absurd (hfirst _ (by rw [hmore]; rfl)) (by decide)

/-- The text of an element is read back, if in pieces. -/
theorem readContent?_xmlText (rest : List Char) {fuel : Nat} {cs : List Char}
    (hfuel : cs.length < fuel) :
    ∃ nodes, readContent? d expand fuel scope (xmlText cs ++ '<' :: '/' :: rest) =
      some (nodes, '<' :: '/' :: rest) ∧ Spells nodes cs := by
  induction fuel generalizing cs with
  | zero => exact absurd hfuel (Nat.not_lt_zero _)
  | succ fuel ih =>
    cases cs with
    | nil => exact ⟨[], readContent?_end fuel rest, .nil⟩
    | cons c cs =>
      cases hc : isPlain c with
      | true =>
        -- the longest plain run is one piece, and an escaped character or the end tag stops it
        have hrun : ∀ d ∈ (c :: cs).takeWhile isPlain, isPlain d = true :=
          List.all_eq_true.1 List.all_takeWhile
        have hne : (c :: cs).takeWhile isPlain ≠ [] := by
          rw [List.takeWhile_cons_of_pos hc]
          exact List.cons_ne_nil _ _
        have hsplit := List.takeWhile_append_dropWhile (p := isPlain) (l := c :: cs)
        have hlength : ((c :: cs).dropWhile isPlain).length < fuel := by
          rw [List.dropWhile_cons_of_pos hc]
          exact Nat.lt_of_le_of_lt (List.dropWhile_sublist _).length_le
            (Nat.lt_of_succ_lt_succ hfuel)
        have hstop := List.head?_dropWhile_not isPlain (c :: cs)
        generalize (c :: cs).takeWhile isPlain = run at hrun hne hsplit
        generalize (c :: cs).dropWhile isPlain = more at hsplit hlength hstop
        obtain ⟨nodes, hread, hspells⟩ := ih hlength
        refine ⟨.text (String.ofList run) :: nodes, ?_, ?_⟩
        · rw [← hsplit, xmlText_append, xmlText_of_isPlain hrun, List.append_assoc,
            readContent?_run hne hrun ?_, hread, Option.map_some]
          cases more with
          | nil => exact fun d hd => .inl (Option.mem_some.1 hd).symm
          | cons d more =>
            obtain ⟨name, hwritten, -⟩ := xmlChar_of_not_isPlain (c := d) (by simpa using hstop)
            rw [xmlText_cons, hwritten]
            exact fun d hd => .inr (Option.mem_some.1 hd).symm
        · have h := hspells.cons (String.ofList run)
          rwa [String.toList_ofList, hsplit] at h
      | false =>
        obtain ⟨name, hwritten, hname, hpredefined⟩ := xmlChar_of_not_isPlain hc
        have hshort : cs.length < fuel := Nat.lt_of_succ_lt_succ hfuel
        obtain ⟨nodes, hread, hspells⟩ := ih hshort
        refine ⟨.text (String.singleton c) :: nodes, ?_, ?_⟩
        · rw [xmlText_cons, hwritten]
          have happend : '&' :: (name.toList ++ [';']) ++ xmlText cs ++ '<' :: '/' :: rest =
              '&' :: (name.toList ++ ';' :: (xmlText cs ++ '<' :: '/' :: rest)) := by simp
          rw [happend, readContent?_reference hname hpredefined, hread, Option.map_some]
        · have h := hspells.cons (String.singleton c)
          rwa [String.toList_singleton] at h

/-! ## Elements -/

theorem readStartTag?_empty {tag : String} (htag : isLetterName tag = true) (fuel : Nat)
    (rest : List Char) :
    readStartTag? (fuel + 1) (tag.toList ++ ' ' :: '/' :: '>' :: rest) =
      some ⟨⟨none, tag⟩, [], true, rest⟩ := by
  rw [readStartTag?, readQName?_append htag rfl (by decide), Option.bind_some]
  rfl

theorem readStartTag?_open {tag : String} (htag : isLetterName tag = true) (fuel : Nat)
    (rest : List Char) :
    readStartTag? (fuel + 1) (tag.toList ++ '>' :: rest) =
      some ⟨⟨none, tag⟩, [], false, rest⟩ := by
  rw [readStartTag?, readQName?_append htag rfl (by decide), Option.bind_some]
  rfl

/-- A tag without attributes keeps its name where none are declared and no namespace is bound. -/
theorem open?_plain (hd : d.attributes = []) (hscope : scope.lookup "" = none) (tag : String)
    (isEmpty : Bool) (rest : List Char) :
    open? d scope ⟨⟨none, tag⟩, [], isEmpty, rest⟩ = some (scope, tag, []) := by
  have hvalues : valuesOf? d ⟨⟨none, tag⟩, [], isEmpty, rest⟩ = some [] := by
    simp [valuesOf?, Declarations.defaults, hd]
  simp [open?, hvalues, bindSpaces?, elementName?, hscope]

theorem readElement?_xmlElement (hd : d.attributes = []) (hscope : scope.lookup "" = none)
    {tag : String} (htag : isLetterName tag = true) {content : List Char} {nodes : List Node}
    {fuel : Nat} (rest : List Char) (hread : readContent? d expand (fuel + 1) scope
      (content ++ '<' :: '/' :: (tag.toList ++ '>' :: rest)) =
        some (nodes, '<' :: '/' :: (tag.toList ++ '>' :: rest))) :
    readElement? d expand (fuel + 2) scope ((xmlElement tag content).tail ++ rest) =
      some (.element tag [] nodes, rest) := by
  cases content with
  | nil =>
    rw [List.nil_append, readContent?_end, Option.some.injEq, Prod.mk.injEq] at hread
    have hwritten : (xmlElement tag []).tail ++ rest = tag.toList ++ ' ' :: '/' :: '>' :: rest := by
      simp [xmlElement]
    rw [hwritten, readElement?, readStartTag?_empty htag, ← hread.1]
    simp [open?_plain hd hscope]
  | cons c cs =>
    have hwritten : (xmlElement tag (c :: cs)).tail ++ rest =
        tag.toList ++ '>' :: (c :: cs ++ '<' :: '/' :: (tag.toList ++ '>' :: rest)) := by
      simp [xmlElement]
    have hend : dropWord? "</" ('<' :: '/' :: (tag.toList ++ '>' :: rest)) =
        some (tag.toList ++ '>' :: rest) := dropWord?_append "</" _
    have hclose : dropWord? ">" (skipBlanks ('>' :: rest)) = some rest := by
      rw [skipBlanks_cons (by decide)]
      exact dropWord?_append ">" rest
    have hname : readQName? (tag.toList ++ '>' :: rest) = some (⟨none, tag⟩, '>' :: rest) :=
      readQName?_append htag rfl (by decide) rest
    rw [List.cons_append] at hread
    rw [hwritten, readElement?, readStartTag?_open htag]
    simp [open?_plain hd hscope, hread, hend, hname, hclose]

/-! ## Rows of elements -/

/-- However much follows, the content is read up to an end tag as nodes of the given kind. -/
def Reads (d : Declarations) (expand : Expansion) (scope : Scope) (content : List Char)
    (kind : List Node → Prop) : Prop :=
  ∀ fuel rest, content.length < fuel →
    ∃ nodes, readContent? d expand fuel scope (content ++ '<' :: '/' :: rest) =
      some (nodes, '<' :: '/' :: rest) ∧ kind nodes

variable {content more : List Char} {kind kind' : List Node → Prop} {tag : String}

theorem reads_xmlText (cs : List Char) :
    Reads d expand scope (xmlText cs) fun nodes => Spells nodes cs := by
  intro fuel rest hfuel
  exact readContent?_xmlText rest (Nat.lt_of_le_of_lt (length_le_length_xmlText cs) hfuel)

theorem reads_nil : Reads d expand scope [] fun nodes => nodes = [] := by
  intro fuel rest hfuel
  obtain ⟨fuel, rfl⟩ := Nat.exists_eq_succ_of_ne_zero (Nat.ne_of_gt hfuel)
  exact ⟨[], readContent?_end fuel rest, rfl⟩

theorem readContent?_xmlElement (htag : isLetterName tag = true) (fuel : Nat)
    (rest : List Char) :
    readContent? d expand (fuel + 1) scope (xmlElement tag content ++ rest) =
      (readElement? d expand fuel scope ((xmlElement tag content).tail ++ rest)).bind fun p =>
        (readContent? d expand fuel scope p.2).map fun q => (p.1 :: q.1, q.2) := by
  obtain ⟨c, after, hc, hafter⟩ := exists_tail_xmlElement_eq_cons htag content rest
  have hother (other : Char) (h : isAsciiLetter other = false) (tail : List Char) :
      c :: after = other :: tail → False := by
    intro heq
    rw [(List.cons.inj heq).1, h] at hc
    cases hc
  rw [xmlElement_eq_cons, List.cons_append, List.tail_cons, hafter, readContent?]
  · cases readElement? d expand fuel scope (c :: after) with
    | none => rfl
    | some p =>
      cases hp : readContent? d expand fuel scope p.2 with
      | none => simp [hp]
      | some q => simp [hp]
  · exact hother '/' rfl
  · exact hother '!' rfl
  · exact hother '?' rfl

theorem Reads.xmlElement (hd : d.attributes = []) (hscope : scope.lookup "" = none)
    (htag : isLetterName tag = true) (hcontent : Reads d expand scope content kind)
    (hmore : Reads d expand scope more kind') :
    Reads d expand scope (xmlElement tag content ++ more) fun nodes =>
      ∃ inner rest, nodes = .element tag [] inner :: rest ∧ kind inner ∧ kind' rest := by
  intro fuel rest hfuel
  have hlength := length_xmlElement tag content
  rw [List.length_append] at hfuel
  -- the element takes fuel for the row it stands in, for its tag and for its content
  obtain ⟨fuel, rfl⟩ : ∃ n, fuel = n + 3 := ⟨fuel - 3, by omega⟩
  obtain ⟨inner, hinner, hkind⟩ := hcontent (fuel + 1)
    (tag.toList ++ '>' :: (more ++ '<' :: '/' :: rest)) (by omega)
  obtain ⟨nodes, hnodes, hkind'⟩ := hmore (fuel + 2) rest (by omega)
  refine ⟨.element tag [] inner :: nodes, ?_, inner, nodes, rfl, hkind, hkind'⟩
  rw [List.append_assoc, readContent?_xmlElement htag,
    readElement?_xmlElement hd hscope htag _ hinner]
  simp [hnodes]

end Markup

namespace Payload

/-! ## Characters -/

theorem all_isXmlChar_xmlText (cs : List Char) :
    (xmlText cs).all isXmlChar = cs.all isXmlChar := by
  induction cs with
  | nil => rfl
  | cons c cs ih =>
    have hchar : (xmlChar c).all isXmlChar = isXmlChar c := by
      unfold xmlChar
      split
      · rename_i hc
        exact hc ▸ rfl
      · split
        · rename_i hc
          exact hc ▸ rfl
        · split
          · rename_i hc
            exact hc ▸ rfl
          · exact Bool.and_true _
    rw [xmlText_cons, List.all_append, hchar, ih, List.all_cons]

theorem all_isXmlChar_xmlElement {tag : String} (htag : isLetterName tag = true)
    (content : List Char) : (xmlElement tag content).all isXmlChar = content.all isXmlChar := by
  have hname : tag.toList.all isXmlChar = true := List.all_eq_true.2 fun c hc => by
    have hrange := toNat_of_isAsciiLetter (List.all_eq_true.1 (Bool.and_eq_true_iff.1 htag).2 c hc)
    exact isXmlChar_of_toNat (by omega) (by omega)
  have hmarks : ['<', '>', '/', ' '].all isXmlChar = true := by decide
  simp only [List.all_cons, List.all_nil, Bool.and_true, Bool.and_eq_true] at hmarks
  by_cases hnil : content = []
  · simp [Payload.xmlElement, hnil, hname, hmarks]
  · simp [Payload.xmlElement, hnil, hname, hmarks, Bool.and_comm]

/-! ## Line ends -/

/-- The second text is the first with its line ends made line feeds, wherever it stands but before
a line feed. -/
structure Relined (cs cs' : List Char) : Prop where
  eq_nil_iff : cs' = [] ↔ cs = []
  append : ∀ more : List Char, more.head? ≠ some '\n' →
    normalizeLines (cs ++ more) = cs' ++ normalizeLines more

theorem relined_of_notMem {cs : List Char} (h : '\r' ∉ cs) : Relined cs cs where
  eq_nil_iff := Iff.rfl
  append more _ := normalizeLines_append_of_notMem h more

theorem Relined.followed {cs cs' more more' : List Char} (h : Relined cs cs')
    (hmore : Relined more more') (hhead : more.head? ≠ some '\n') :
    Relined (cs ++ more) (cs' ++ more') where
  eq_nil_iff := by
    rw [List.append_eq_nil_iff, List.append_eq_nil_iff, h.eq_nil_iff, hmore.eq_nil_iff]
  append after hafter := by
    have hnext : (more ++ after).head? ≠ some '\n' := by
      cases more with
      | nil => exact hafter
      | cons c more => exact hhead
    rw [List.append_assoc, h.append _ hnext, hmore.append after hafter, List.append_assoc]

theorem return_notMem_xmlChar {c : Char} (hc : c ≠ '\r') : '\r' ∉ xmlChar c := by
  unfold xmlChar
  split
  · decide
  · split
    · decide
    · split
      · decide
      · exact List.not_mem_cons_of_ne_of_not_mem (Ne.symm hc) List.not_mem_nil

theorem head?_xmlChar_append {c d : Char} {more : List Char} (hd : isPlain d = true)
    (h : (xmlChar c ++ more).head? = some d) : c = d := by
  cases hc : isPlain c with
  | true =>
    rw [xmlChar_of_isPlain hc] at h
    exact Option.some.inj h
  | false =>
    obtain ⟨name, hwritten, -⟩ := xmlChar_of_not_isPlain hc
    rw [hwritten] at h
    obtain rfl : '&' = d := Option.some.inj h
    cases hd

theorem relined_xmlText (cs : List Char) :
    Relined (xmlText cs) (xmlText (normalizeLines cs)) := by
  fun_induction normalizeLines cs with
  | case1 => exact relined_of_notMem List.not_mem_nil
  | case2 rest ih =>
    refine ⟨iff_of_false (List.cons_ne_nil _ _) (List.cons_ne_nil _ _), fun more hmore => ?_⟩
    exact congrArg (List.cons '\n') (ih.append more hmore)
  | case3 c rest hpair ih =>
    refine ⟨?_, fun more hmore => ?_⟩
    · simp [xmlText_cons, xmlChar_ne_nil]
    · rw [xmlText_cons, xmlText_cons, List.append_assoc]
      by_cases hc : c = '\r'
      · subst hc
        -- the return is a line end of its own: no line feed follows it, escaped or not
        have hhead : (xmlText rest ++ more).head? ≠ some '\n' := by
          cases rest with
          | nil => exact hmore
          | cons d rest =>
            intro h
            rw [xmlText_cons, List.append_assoc] at h
            exact hpair rest rfl (by rw [head?_xmlChar_append rfl h])
        rw [if_pos rfl]
        exact (normalizeLines_return_of_ne hhead).trans (congrArg _ (ih.append more hmore))
      · rw [if_neg hc, normalizeLines_append_of_notMem (return_notMem_xmlChar hc),
          ih.append more hmore, List.append_assoc]

theorem return_notMem_of_isLetterName {name : String} (h : isLetterName name = true) :
    '\r' ∉ name.toList := fun hmem =>
  absurd (List.all_eq_true.1 (Bool.and_eq_true_iff.1 h).2 _ hmem) (by decide)

theorem Relined.xmlElement {content content' : List Char} (h : Relined content content')
    {tag : String} (htag : isLetterName tag = true) :
    Relined (xmlElement tag content) (xmlElement tag content') := by
  have hname := return_notMem_of_isLetterName htag
  by_cases hnil : content = []
  · rw [h.eq_nil_iff.2 hnil, hnil]
    exact relined_of_notMem (by simp [Payload.xmlElement, hname])
  · have hopen : '\r' ∉ '<' :: (tag.toList ++ ['>']) := by simp [hname]
    have hend : '\r' ∉ '<' :: '/' :: (tag.toList ++ ['>']) := by simp [hname]
    have hinner : Relined (content ++ '<' :: '/' :: (tag.toList ++ ['>']))
        (content' ++ '<' :: '/' :: (tag.toList ++ ['>'])) :=
      h.followed (relined_of_notMem hend) fun h => absurd (Option.some.inj h) (by decide)
    refine ⟨?_, fun more hmore => ?_⟩
    · rw [xmlElement_eq_cons, xmlElement_eq_cons tag content]
      exact iff_of_false (List.cons_ne_nil _ _) (List.cons_ne_nil _ _)
    · have hwritten := normalizeLines_append_of_notMem hopen
        (content ++ '<' :: '/' :: (tag.toList ++ ['>']) ++ more)
      rw [hinner.append more hmore] at hwritten
      simpa [Payload.xmlElement, hnil, mt h.eq_nil_iff.1 hnil] using hwritten

end Payload

end ScriptGateway
