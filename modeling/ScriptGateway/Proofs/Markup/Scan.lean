import ScriptGateway.Markup.Bytes

/-!
# Scanning what was written

Each scanner reads back what its production writes: words, quoted literals, names and references,
and with them the XML declaration. Nothing but carriage returns is changed where line ends are made
line feeds (`normalizeLines_eq_self_iff`).
-/

set_option autoImplicit false

namespace ScriptGateway.Markup

open Text

/-! ## Line ends -/

theorem normalizeLines_cons_of_ne {c : Char} (hc : c ≠ '\r') (cs : List Char) :
    normalizeLines (c :: cs) = c :: normalizeLines cs := by
  rw [normalizeLines.eq_3 c cs fun _ hr => absurd hr hc, if_neg hc]

theorem normalizeLines_append_of_notMem {before : List Char} (h : '\r' ∉ before)
    (cs : List Char) : normalizeLines (before ++ cs) = before ++ normalizeLines cs := by
  induction before with
  | nil => rfl
  | cons c before ih =>
    obtain ⟨hc, hbefore⟩ := not_or.1 (mt List.mem_cons.2 h)
    rw [List.cons_append, normalizeLines_cons_of_ne (Ne.symm hc), ih hbefore, List.cons_append]

theorem normalizeLines_return_of_ne {cs : List Char} (h : cs.head? ≠ some '\n') :
    normalizeLines ('\r' :: cs) = '\n' :: normalizeLines cs := by
  rw [normalizeLines.eq_3 '\r' cs fun rest _ hcs => h (by rw [hcs]; rfl), if_pos rfl]

theorem return_notMem_normalizeLines (cs : List Char) : '\r' ∉ normalizeLines cs := by
  fun_induction normalizeLines cs with
  | case1 => exact List.not_mem_nil
  | case2 rest ih => exact List.not_mem_cons_of_ne_of_not_mem (by decide) ih
  | case3 c rest _ ih =>
    refine List.not_mem_cons_of_ne_of_not_mem ?_ ih
    split
    · decide
    · exact Ne.symm ‹_›

/-- Only carriage returns are changed. -/
theorem normalizeLines_eq_self_iff {cs : List Char} : normalizeLines cs = cs ↔ '\r' ∉ cs := by
  constructor
  · intro h
    exact h ▸ return_notMem_normalizeLines cs
  · intro h
    simpa [normalizeLines] using normalizeLines_append_of_notMem h []

/-! ## Words and literals -/

theorem startsWith_append (word : String) (rest : List Char) :
    startsWith word (word.toList ++ rest) = true := by
  rw [startsWith, List.isPrefixOf_iff_prefix]
  exact List.prefix_append ..

theorem dropWord?_append (word : String) (rest : List Char) :
    dropWord? word (word.toList ++ rest) = some rest := by
  have h := startsWith_append word rest
  rw [startsWith] at h
  rw [dropWord?, if_pos h, ← String.length_toList, List.drop_left]

theorem skipBlanks_cons {c : Char} (hc : isXmlSpace c = false) (cs : List Char) :
    skipBlanks (c :: cs) = c :: cs := by
  rw [skipBlanks, List.dropWhile_cons_of_neg (by rw [hc]; exact Bool.false_ne_true)]

theorem someBlanks?_space {cs : List Char} (h : skipBlanks cs = cs) :
    someBlanks? (' ' :: cs) = some cs := by
  rw [someBlanks?, if_pos (by decide), h]

theorem readQuoted?_append {q : Char} (hq : q = '"' ∨ q = '\'') {value : List Char}
    (h : q ∉ value) (rest : List Char) :
    readQuoted? (q :: (value ++ q :: rest)) = some (value, rest) := by
  have hne : ∀ c ∈ value, decide (c ≠ q) = true := by
    intro c hc
    rw [decide_eq_true_eq]
    rintro rfl
    exact h hc
  have hstop : ¬decide (q ≠ q) = true := by simp
  have hq' : (decide (q = '"') || decide (q = '\'')) = true := by simpa using hq
  rw [readQuoted?, if_pos hq', List.dropWhile_append_of_pos hne, List.takeWhile_append_of_pos hne,
    List.dropWhile_cons_of_neg (p := fun c => decide (c ≠ q)) hstop,
    List.takeWhile_cons_of_neg (p := fun c => decide (c ≠ q)) hstop, List.append_nil]

/-- A pseudo-attribute as it is written in declarations, between apostrophes. -/
def pseudo (name : String) (value : List Char) : List Char :=
  ' ' :: (name.toList ++ '=' :: '\'' :: (value ++ ['\'']))

theorem readPseudo?_append {name : String} {value : List Char}
    (hname : ∀ rest, skipBlanks (name.toList ++ rest) = name.toList ++ rest)
    (hvalue : value.all isDeclarationChar = true) (rest : List Char) :
    readPseudo? name (pseudo name value ++ rest) = some (String.ofList value, rest) := by
  have hquote : '\'' ∉ value := fun h => absurd (List.all_eq_true.1 hvalue _ h) (by decide)
  have hwritten : pseudo name value ++ rest =
      ' ' :: (name.toList ++ '=' :: '\'' :: (value ++ '\'' :: rest)) := by simp [pseudo]
  rw [hwritten, readPseudo?, someBlanks?_space (hname _), Option.bind_eq_bind, Option.bind_some,
    dropWord?_append, Option.bind_eq_bind, Option.bind_some, skipBlanks_cons (by decide)]
  simp only [skipBlanks_cons (show isXmlSpace '\'' = false by decide),
    readQuoted?_append (.inr rfl) hquote, Option.bind_some, hvalue, if_true]

theorem namesNext_pseudo {name : String}
    (hname : ∀ rest, skipBlanks (name.toList ++ rest) = name.toList ++ rest)
    (value rest : List Char) : namesNext name (pseudo name value ++ rest) = true := by
  have hwritten : pseudo name value ++ rest =
      ' ' :: (name.toList ++ ('=' :: '\'' :: (value ++ '\'' :: rest))) := by simp [pseudo]
  rw [namesNext, hwritten, skipBlanks, List.dropWhile_cons_of_pos (by decide), ← skipBlanks, hname,
    startsWith_append]

theorem readDeclaration?_append {version encoding : List Char}
    (hversion : version.all isDeclarationChar = true)
    (hencoding : encoding.all isDeclarationChar = true)
    (hname : isEncodingName (String.ofList encoding) = true) (rest : List Char) :
    readDeclaration? ("<?xml".toList ++ (pseudo "version" version ++
        (pseudo "encoding" encoding ++ ("?>".toList ++ rest)))) =
      some (some ⟨some (String.ofList encoding), false⟩, rest) := by
  have hskip (word : String) (c : Char) (cs : List Char) (hword : word.toList = c :: cs)
      (hc : isXmlSpace c = false) (rest : List Char) :
      skipBlanks (word.toList ++ rest) = word.toList ++ rest := by
    rw [hword, List.cons_append, skipBlanks_cons hc]
  have hv := readPseudo?_append (hskip "version" _ _ rfl rfl) hversion
    (pseudo "encoding" encoding ++ ("?>".toList ++ rest))
  have he := readPseudo?_append (hskip "encoding" _ _ rfl rfl) hencoding ("?>".toList ++ rest)
  have hnext := namesNext_pseudo (hskip "encoding" _ _ rfl rfl) encoding ("?>".toList ++ rest)
  have hend : skipBlanks ("?>".toList ++ rest) = "?>".toList ++ rest := hskip "?>" _ _ rfl rfl rest
  have hlast : namesNext "standalone" ("?>".toList ++ rest) = false := by
    rw [namesNext, hend]
    rfl
  rw [readDeclaration?, dropWord?_append]
  obtain ⟨more, hmore⟩ : ∃ more, pseudo "version" version ++
      (pseudo "encoding" encoding ++ ("?>".toList ++ rest)) = ' ' :: more := ⟨_, rfl⟩
  rw [hmore] at hv ⊢
  have hblank : isXmlSpace ' ' = true := by decide
  simp only [hblank, if_true, hv, hnext, he, hname, hlast, hend, dropWord?_append,
    Option.bind_eq_bind, Option.bind_some, Bool.false_eq_true, if_false]

/-! ## Names -/

/-- A name of ASCII letters alone, which is one in every document. -/
def isLetterName (name : String) : Bool := !name.toList.isEmpty && name.toList.all isAsciiLetter

theorem toNat_of_isAsciiLetter {c : Char} (h : isAsciiLetter c = true) :
    0x41 ≤ c.toNat ∧ c.toNat < 0x80 := by
  simp only [isAsciiLetter, isAsciiUpper, isAsciiLower, Bool.or_eq_true, Bool.and_eq_true,
    decide_eq_true_eq] at h
  have hA : 'A'.toNat = 0x41 := rfl
  have hZ : 'Z'.toNat = 0x5A := rfl
  have ha : 'a'.toNat = 0x61 := rfl
  have hz : 'z'.toNat = 0x7A := rfl
  rcases h with ⟨hfirst, hlast⟩ | ⟨hfirst, hlast⟩
  · have hlow : 'A'.toNat ≤ c.toNat := hfirst
    have hhigh : c.toNat ≤ 'Z'.toNat := hlast
    omega
  · have hlow : 'a'.toNat ≤ c.toNat := hfirst
    have hhigh : c.toNat ≤ 'z'.toNat := hlast
    omega

theorem isXmlChar_of_toNat {c : Char} (hlow : 0x20 ≤ c.toNat) (hhigh : c.toNat < 0xFFFE) :
    isXmlChar c = true := by
  have hne : c.toNat ≠ 0xFFFE := Nat.ne_of_lt hhigh
  have hne' : c.toNat ≠ 0xFFFF := Nat.ne_of_lt (Nat.lt_succ_of_lt hhigh)
  simp [isXmlChar, hlow, hne, hne']

theorem exists_cons_of_isLetterName {name : String} (h : isLetterName name = true) :
    ∃ c letters, name.toList = c :: letters ∧ isAsciiLetter c = true ∧
      ∀ d ∈ letters, isAsciiLetter d = true := by
  cases hletters : name.toList with
  | nil => simp [isLetterName, hletters] at h
  | cons c letters =>
    rw [isLetterName, hletters, Bool.and_eq_true_iff, List.all_cons, Bool.and_eq_true_iff] at h
    exact ⟨c, letters, rfl, h.2.1, List.all_eq_true.1 h.2.2⟩

variable [NameLetters]

theorem isNameStart_of_isAsciiLetter {c : Char} (h : isAsciiLetter c = true) :
    isNameStart c = true := by
  rw [isNameStart, if_pos (toNat_of_isAsciiLetter h).2, h, Bool.true_or]

theorem isNameChar_of_isAsciiLetter {c : Char} (h : isAsciiLetter c = true) :
    isNameChar c = true := by
  rw [isNameChar, if_pos (toNat_of_isAsciiLetter h).2, isAsciiAlnum, h]
  rfl

theorem readName?_append {name : String} (hname : isLetterName name = true) {c : Char}
    (hc : isNameChar c = false) (rest : List Char) :
    readName? (name.toList ++ c :: rest) = some (name, c :: rest) := by
  obtain ⟨a, letters, hletters, ha, hall⟩ := exists_cons_of_isLetterName hname
  have hstop : ¬isNameChar c = true := by rw [hc]; exact Bool.false_ne_true
  have hrun : ∀ d ∈ letters, isNameChar d = true := fun d hd =>
    isNameChar_of_isAsciiLetter (hall d hd)
  rw [hletters, List.cons_append, readName?, if_pos (isNameStart_of_isAsciiLetter ha),
    List.takeWhile_append_of_pos hrun, List.dropWhile_append_of_pos hrun,
    List.takeWhile_cons_of_neg hstop, List.dropWhile_cons_of_neg hstop, List.append_nil,
    ← hletters, String.ofList_toList]

theorem readQName?_append {name : String} (hname : isLetterName name = true) {c : Char}
    (hc : isNameChar c = false) (hcolon : c ≠ ':') (rest : List Char) :
    readQName? (name.toList ++ c :: rest) = some (⟨none, name⟩, c :: rest) := by
  rw [readQName?, readName?_append hname hc]
  split
  · rename_i h
    cases h
  · rename_i h
    cases h
    exact absurd rfl hcolon
  · rename_i h
    cases h
    rfl

theorem readReference?_append {name : String} (hname : isLetterName name = true) {c : Char}
    (hc : predefined? name = some c) (rest : List Char) :
    readReference? (name.toList ++ ';' :: rest) = some (.char c, rest) := by
  obtain ⟨a, letters, hletters, ha, -⟩ := exists_cons_of_isLetterName hname
  have hread := readName?_append hname (show isNameChar ';' = false from rfl) rest
  have hnumber : a ≠ '#' := by
    rintro rfl
    cases ha
  rw [hletters] at hread ⊢
  rw [List.cons_append] at hread ⊢
  unfold readReference?
  split
  · rename_i h
    exact absurd (List.cons.inj h).1 hnumber
  · rename_i h
    exact absurd (List.cons.inj h).1 hnumber
  · simp only [hread, hc]

end ScriptGateway.Markup
