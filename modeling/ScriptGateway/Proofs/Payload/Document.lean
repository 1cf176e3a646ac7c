import ScriptGateway.Proofs.Payload.Xml
import ScriptGateway.Proofs.Text.Utf8

/-!
# Reading an XML body

The bytes of an XML body say themselves that they are UTF-8, so they are decoded to the characters
that were written, if a document may contain these (`decodeDocument_encode_toXml`). The document has
no declarations besides, and its root is read with the content that was written
(`readDocument?_toXml`).
-/

set_option autoImplicit false

namespace ScriptGateway

open Markup Text

/-! ## Documents -/

namespace Payload

def prolog : List Char := "<?xml version='1.0' encoding='utf-8'?>\n".toList

theorem toList_toXml (p : Payload) :
    p.toXml.toList = prolog ++ xmlElement p.rootTag p.xmlContent := String.toList_ofList

theorem prolog_eq_append : prolog = "<?xml".toList ++ (pseudo "version" "1.0".toList ++
    (pseudo "encoding" "utf-8".toList ++ ("?>".toList ++ ['\n']))) := by rfl

/-- The declaration names the encoding, whatever comes after it. -/
theorem readDeclaration?_prolog (rest : List Char) :
    readDeclaration? (prolog ++ rest) = some (some ⟨some "utf-8", false⟩, '\n' :: rest) := by
  have hversion : "1.0".toList.all isDeclarationChar = true := by decide
  have hencoding : "utf-8".toList.all isDeclarationChar = true := by decide
  have h := readDeclaration?_append hversion hencoding (by decide) ('\n' :: rest)
  rw [prolog_eq_append]
  simpa only [List.append_assoc, List.cons_append, List.nil_append, String.ofList_toList] using h

end Payload

/-- In a one-byte reading of UTF-8, ASCII is itself. -/
theorem latinChars_encode_append {cs : List Char} (h : ∀ c ∈ cs, c.toNat < 0x80)
    (rest : List Char) : latinChars (encode (String.ofList (cs ++ rest))) =
      cs ++ latinChars (encode (String.ofList rest)) := by
  rw [encode_eq_flatMap, encode_eq_flatMap, String.toList_ofList, String.toList_ofList]
  induction cs with
  | nil => rfl
  | cons c cs ih =>
    have hc := h c List.mem_cons_self
    have hback : Char.ofNat (UInt8.ofNat c.toNat).toNat = c := by
      rw [toNat_ofNat_byte (by omega), Char.ofNat_toNat]
    rw [List.cons_append, List.flatMap_cons, utf8EncodeChar_of_ascii hc, List.singleton_append,
      latinChars, List.map_cons, hback, ← latinChars,
      ih fun d hd => h d (List.mem_cons_of_mem _ hd), List.cons_append]

namespace Payload

theorem decodeNamed_utf8 (bs : List UInt8) :
    decodeNamed "utf-8" bs = (wellFormed (decode? bs)).map .plain := by
  have hsmall : String.ofList ("utf-8".toList.map Char.toLower) = "utf-8" := by decide
  have hunits : ["utf-16", "utf-16be", "utf-16le"].contains "utf-8" = false := by decide
  simp only [decodeNamed, hsmall, hunits, Bool.false_eq_true, if_false, if_true]

theorem decodeBytes_encode_toXml (p : Payload) :
    decodeBytes (encode p.toXml) = .ok (.plain p.toXml.toList) := by
  have hascii : prolog.all (·.toNat < 0x80) = true := by decide
  have hread : readDeclaration? (latinChars (encode p.toXml)) = some (some ⟨some "utf-8", false⟩,
      '\n' :: latinChars (encode (String.ofList (xmlElement p.rootTag p.xmlContent)))) := by
    rw [← readDeclaration?_prolog, ← latinChars_encode_append fun c hc =>
      of_decide_eq_true (List.all_eq_true.1 hascii c hc)]
    rfl
  rw [decodeBytes, hread]
  simp only [decodeNamed_utf8, decode?_encode]
  rfl

theorem decodeDocument_encode_toXml (p : Payload) : decodeDocument (encode p.toXml) =
    if p.toXml.toList.all isXmlChar then .ok (.plain (normalizeLines p.toXml.toList))
    else .error .malformed := by
  obtain ⟨more, hbytes⟩ : ∃ more, encode p.toXml = 0x3C :: 0x3F :: more := by
    have hprolog : prolog = '<' :: '?' :: prolog.drop 2 := by decide
    rw [encode_eq_flatMap, toList_toXml, hprolog, List.cons_append, List.cons_append,
      List.flatMap_cons, List.flatMap_cons, utf8EncodeChar_of_ascii (by decide),
      utf8EncodeChar_of_ascii (by decide)]
    exact ⟨_, rfl⟩
  have hdecode := decodeBytes_encode_toXml p
  rw [hbytes] at hdecode ⊢
  rw [decodeDocument, hdecode]
  · simp only [bind, Except.bind, pure, Except.pure, Decoded.plain]
    by_cases hall : p.toXml.toList.all isXmlChar = true
    · simp only [hall, if_true]
    · simp only [hall, if_false, Bool.false_eq_true]
  all_goals simp

end Payload

/-! ## Reading -/

namespace Markup

/-- A start tag begins nothing that its second character rules out. -/
theorem startsWith_lt {word : String} {w c : Char} {ws : List Char}
    (hword : word.toList = '<' :: w :: ws) (hw : isAsciiLetter w = false)
    (hc : isAsciiLetter c = true) (rest : List Char) :
    startsWith word ('<' :: c :: rest) = false := by
  rw [startsWith, hword, Bool.eq_false_iff]
  intro h
  obtain ⟨more, hmore⟩ := List.isPrefixOf_iff_prefix.1 h
  rw [← (List.cons.inj (List.cons.inj hmore).2).1, hw] at hc
  cases hc

variable [NameLetters]

theorem skipMisc?_lt {c : Char} (hc : isAsciiLetter c = true) (fuel : Nat)
    (rest : List Char) : skipMisc? (fuel + 1) ('<' :: c :: rest) = some ('<' :: c :: rest) := by
  have hcomment : startsWith "<!--" ('<' :: c :: rest) = false := startsWith_lt rfl rfl hc rest
  have hinstruction : startsWith "<?" ('<' :: c :: rest) = false := startsWith_lt rfl rfl hc rest
  simp only [skipMisc?, skipBlanks_cons (show isXmlSpace '<' = false from rfl), hcomment,
    hinstruction, Bool.false_eq_true, if_false]

theorem bears_empty (standalone : Bool) {bound : Nat} (h : 0 < bound) (cs : List Char) :
    (Declarations.empty standalone bound).bears cs = true := by
  have hweights : (Declarations.empty standalone bound).weights = ∅ := rfl
  have hsum (names : List String) :
      names.foldl (fun n name => n + (∅ : Weights).getD name 0) 0 = 0 := by
    induction names with
    | nil => rfl
    | cons name names ih =>
      rw [List.foldl_cons, Std.HashMap.getD_empty]
      exact ih
  simp only [Declarations.bears, hweights, hsum]
  exact decide_eq_true h

end Markup

namespace Payload

/-- A document without declarations is its root. -/
theorem readDocument?_toXml [NameLetters] {p : Payload} (htag : isLetterName p.rootTag = true)
    {kind : List Node → Prop} (hcontent : ∀ (d : Declarations) (expand : Expansion),
      d.attributes = [] → Reads d expand outerScope p.xmlContent kind) :
    ∃ nodes, readDocument? p.toXml.toList = some (.element p.rootTag [] nodes) ∧ kind nodes := by
  obtain ⟨c, more, hc, hmore⟩ := exists_tail_xmlElement_eq_cons htag p.xmlContent []
  rw [List.append_nil] at hmore
  have helement := xmlElement_eq_cons p.rootTag p.xmlContent
  have hlength := length_xmlElement p.rootTag p.xmlContent
  rw [toList_toXml]
  obtain ⟨fuel, hfuel, hlong⟩ : ∃ fuel,
      2 * (prolog ++ xmlElement p.rootTag p.xmlContent).length + 2 = fuel + 2 ∧
        p.xmlContent.length < fuel + 1 :=
    ⟨_, rfl, by rw [List.length_append]; omega⟩
  rw [helement, hmore] at hfuel ⊢
  have hmisc : skipMisc? (fuel + 2) ('\n' :: '<' :: c :: more) = some ('<' :: c :: more) :=
    skipMisc?_lt hc (fuel + 1) more
  have htype : ¬startsWith "<!DOCTYPE" ('<' :: c :: more) = true :=
    Bool.eq_false_iff.1 (startsWith_lt rfl rfl hc more)
  have hopen : Markup.dropWord? "<" ('<' :: c :: more) = some (c :: more) :=
    dropWord?_append "<" (c :: more)
  have hbound : 0 < readingBound ('\n' :: '<' :: c :: more).length :=
    Nat.lt_of_lt_of_le (Nat.succ_pos _) (Nat.le_max_right ..)
  have hbears := bears_empty false hbound ('<' :: c :: more)
  obtain ⟨nodes, hnodes, hkind⟩ := hcontent (.empty false _) _ rfl (fuel + 1)
    (p.rootTag.toList ++ '>' :: []) hlong
  have hroot := readElement?_xmlElement rfl rfl htag [] hnodes
  rw [List.append_nil, hmore] at hroot
  refine ⟨nodes, ?_, hkind⟩
  unfold readDocument?
  rw [hfuel]
  refine Option.bind_eq_some_iff.2 ⟨_, readDeclaration?_prolog _, ?_⟩
  refine Option.bind_eq_some_iff.2 ⟨_, hmisc, ?_⟩
  -- without a document type nothing is declared, and the root is what comes next
  refine (if_neg htype).trans ?_
  refine Option.bind_eq_some_iff.2 ⟨_, rfl, ?_⟩
  refine Option.bind_eq_some_iff.2 ⟨(), if_pos hbears, ?_⟩
  refine Option.bind_eq_some_iff.2 ⟨_, hopen, ?_⟩
  exact Option.bind_eq_some_iff.2 ⟨_, hroot, rfl⟩

end Payload

end ScriptGateway
