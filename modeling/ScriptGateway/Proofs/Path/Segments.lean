import ScriptGateway.Path
import ScriptGateway.Proofs.Outcome
import ScriptGateway.Proofs.Text.Numerals

/-!
# Segments of paths

Segments that are put together with slashes are read back (`segments_along`), and so are the two
special forms of a segment, a number (`index?_decimal`) and a name in quotes
(`quotedName?_eq_some_iff`). A segment has no reading as a number when it is `Overlong`
(`exists_index?_error_iff`).
-/

set_option autoImplicit false

namespace ScriptGateway.Text

theorem dropFinalNewline_of_ne {cs : List Char} (h : cs.getLast? ≠ some '\n') :
    dropFinalNewline cs = cs := if_neg h

theorem dropFinalNewline_append (front : List Char) :
    dropFinalNewline (front ++ ['\n']) = front := by
  simp [dropFinalNewline]

theorem dropFinalNewline_cons {c : Char} (hc : c ≠ '\n') (cs : List Char) :
    dropFinalNewline (c :: cs) = c :: dropFinalNewline cs := by
  cases cs with
  | nil => exact dropFinalNewline_of_ne (by simpa using hc)
  | cons d cs =>
    unfold dropFinalNewline
    rw [List.getLast?_cons_cons]
    split
    · rfl
    · rfl

theorem dropFinalNewline_begins (cs : List Char) : dropFinalNewline cs <+: cs := by
  unfold dropFinalNewline
  split
  · exact List.dropLast_prefix cs
  · exact List.prefix_refl cs

theorem mem_of_mem_dropFinalNewline {cs : List Char} {c : Char} (h : c ∈ dropFinalNewline cs) :
    c ∈ cs := (dropFinalNewline_begins cs).subset h

theorem exists_of_dropFinalNewline_cons {cs rest : List Char} {c : Char}
    (h : dropFinalNewline cs = c :: rest) : ∃ rest', cs = c :: rest' := by
  obtain ⟨back, hback⟩ := dropFinalNewline_begins cs
  exact ⟨rest ++ back, by rw [← hback, h, List.cons_append]⟩

/-! ## Splitting what was joined -/

theorem splitAt_of_notMem {sep : Char} {cs : List Char} (h : sep ∉ cs) : splitAt sep cs = [cs] := by
  induction cs with
  | nil => rfl
  | cons c cs ih =>
    rw [List.mem_cons, not_or] at h
    simp [splitAt, Ne.symm h.1, ih h.2]

theorem notMem_of_mem_splitAt {sep : Char} {cs piece : List Char} (h : piece ∈ splitAt sep cs) :
    sep ∉ piece := by
  induction cs generalizing piece with
  | nil =>
    obtain rfl : piece = [] := by simpa [splitAt] using h
    exact List.not_mem_nil
  | cons c cs ih =>
    unfold splitAt at h
    split at h
    · rcases List.mem_cons.1 h with rfl | h
      · exact List.not_mem_nil
      · exact ih h
    · rename_i hc
      split at h
      · rename_i front pieces hsplit
        rw [hsplit] at ih
        rcases List.mem_cons.1 h with rfl | h
        · exact List.not_mem_cons_of_ne_of_not_mem (Ne.symm hc) (ih List.mem_cons_self)
        · exact ih (List.mem_cons_of_mem _ h)
      · rename_i hsplit
        exact absurd hsplit (splitAt_ne_nil sep cs)

theorem splitAt_append {sep : Char} {piece : List Char} (h : sep ∉ piece) (rest : List Char) :
    splitAt sep (piece ++ sep :: rest) = piece :: splitAt sep rest := by
  induction piece with
  | nil => simp [splitAt]
  | cons c piece ih =>
    rw [List.mem_cons, not_or] at h
    simp [splitAt, Ne.symm h.1, ih h.2]

theorem splitAt_joinWith {pieces : List String} (hne : pieces ≠ [])
    (h : ∀ s ∈ pieces, '/' ∉ s.toList) :
    splitAt '/' (joinWith "/" pieces).toList = pieces.map String.toList := by
  induction pieces with
  | nil => exact absurd rfl hne
  | cons s rest ih =>
    obtain ⟨hs, hrest⟩ := List.forall_mem_cons.1 h
    cases rest with
    | nil => simp [joinWith, splitAt_of_notMem hs]
    | cons t rest =>
      have hjoin : (joinWith "/" (s :: t :: rest)).toList =
          s.toList ++ '/' :: (joinWith "/" (t :: rest)).toList := by
        simp [joinWith]
      rw [hjoin, splitAt_append hs, ih (by simp) hrest]
      rfl

end ScriptGateway.Text

namespace ScriptGateway.Path

open Text

/-! ## What a path is split into -/

/-- The text without one slash in front. -/
def behindSlash : List Char → List Char
  | '/' :: rest => rest
  | cs => cs

theorem behindSlash_eq_self {cs : List Char} (h : ∀ rest, cs = '/' :: rest → False) :
    behindSlash cs = cs := by
  unfold behindSlash
  split
  next rest => exact (h rest rfl).elim
  next => rfl

/-- The pieces without an empty one at the end. -/
def dropEmptyLast (pieces : List (List Char)) : List (List Char) :=
  if pieces.getLast? = some [] then pieces.dropLast else pieces

theorem dropEmptyLast_concat (pieces : List (List Char)) :
    dropEmptyLast (pieces ++ [[]]) = pieces := by
  simp [dropEmptyLast]

theorem dropEmptyLast_of_ne {pieces : List (List Char)} (h : pieces.getLast? ≠ some []) :
    dropEmptyLast pieces = pieces := if_neg h

theorem length_dropEmptyLast_le (pieces : List (List Char)) :
    (dropEmptyLast pieces).length ≤ pieces.length := by
  unfold dropEmptyLast
  split
  · exact (List.dropLast_sublist pieces).length_le
  · exact Nat.le_refl _

theorem mem_of_mem_dropEmptyLast {pieces : List (List Char)} {piece : List Char}
    (h : piece ∈ dropEmptyLast pieces) : piece ∈ pieces := by
  unfold dropEmptyLast at h
  split at h
  · exact List.dropLast_subset _ h
  · exact h

/-- The empty text has one piece, which does not count. -/
theorem segments_eq (path : String) :
    segments path = (dropEmptyLast (splitAt '/' (behindSlash path.toList))).map String.ofList := by
  unfold segments
  split
  next rest hpath =>
    rw [hpath]
    cases rest <;> rfl
  next hslash =>
    rw [behindSlash_eq_self hslash]
    cases path.toList <;> rfl

/-- No segment of a path is parted by a slash. -/
theorem slash_notMem_of_mem_segments {path segment : String} (h : segment ∈ segments path) :
    '/' ∉ segment.toList := by
  rw [segments_eq] at h
  obtain ⟨piece, hpiece, rfl⟩ := List.mem_map.1 h
  rw [String.toList_ofList]
  exact notMem_of_mem_splitAt (mem_of_mem_dropEmptyLast hpiece)

theorem segments_slash_eq {segs : List String} (hne : segs ≠ [])
    (h : ∀ s ∈ segs, '/' ∉ s.toList) : segments ("/" ++ joinWith "/" segs) =
      (dropEmptyLast (segs.map String.toList)).map String.ofList := by
  have hpath : ("/" ++ joinWith "/" segs).toList = '/' :: (joinWith "/" segs).toList := by simp
  rw [segments_eq, hpath, behindSlash, splitAt_joinWith hne h]

/-- A path of segments behind a slash leads through these segments. Only an empty segment at the
very end would be taken for a slash that does not count. -/
theorem segments_slash_joinWith {segs : List String} (hne : segs ≠ [])
    (h : ∀ s ∈ segs, '/' ∉ s.toList) (hlast : segs.getLast? ≠ some "") :
    segments ("/" ++ joinWith "/" segs) = segs := by
  have hpieces : (segs.map String.toList).getLast? ≠ some [] := by simpa using hlast
  rw [segments_slash_eq hne h, dropEmptyLast_of_ne hpieces]
  simp

theorem segments_along {segs : List String} (h : ∀ s ∈ segs, '/' ∉ s.toList)
    (hlast : segs.getLast? ≠ some "") : segments (along segs) = segs := by
  by_cases hne : segs = []
  · subst hne
    decide
  · rw [along, if_neg (by simpa using hne)]
    exact segments_slash_joinWith hne h hlast

theorem splitAt_along {segs : List String} (h : ∀ s ∈ segs, '/' ∉ s.toList) :
    splitAt '/' (along segs).toList = [] :: segs.map String.toList := by
  by_cases hne : segs = []
  · subst hne
    decide
  · have hpath : (along segs).toList = [] ++ '/' :: (joinWith "/" segs).toList := by
      simp [along, hne]
    rw [hpath, splitAt_append List.not_mem_nil, splitAt_joinWith hne h]

/-- Segments are known from the path along them. -/
theorem along_inj {xs ys : List String} (hx : ∀ s ∈ xs, '/' ∉ s.toList)
    (hy : ∀ s ∈ ys, '/' ∉ s.toList) (h : along xs = along ys) : xs = ys := by
  have hsplit := congrArg (fun path => splitAt '/' path.toList) h
  simp only [splitAt_along hx, splitAt_along hy, List.cons.injEq, true_and] at hsplit
  exact List.map_injective_iff.2 (fun _ _ htext => String.toList_injective htext) hsplit

/-! ## Numbers -/

/-- The segment is a numeral of more digits than are converted. -/
def Overlong (segment : String) : Prop :=
  ∃ sign ∈ [[], ['+'], ['-']], ∃ digits, dropFinalNewline segment.toList = sign ++ digits ∧
    (∀ c ∈ digits, isDigit c = true) ∧ maxDigits < digits.length

theorem index?_eq_error_iff {segment : String} {t : TooLong} :
    index? segment = .error t ↔
      ∃ n, Numeral.ofChars? (dropFinalNewline segment.toList) = some n ∧
        maxDigits < n.digits.length ∧ t = ⟨n.digits.length⟩ := by
  unfold index?
  cases Numeral.ofChars? (dropFinalNewline segment.toList) with
  | none => simp
  | some n => simp [Outcome.map_eq_error, Numeral.value_eq_error_iff]

theorem exists_index?_error_iff {segment : String} :
    (∃ t, index? segment = .error t) ↔ Overlong segment := by
  have hnumeral : (∃ t, index? segment = .error t) ↔
      ∃ n, Numeral.ofChars? (dropFinalNewline segment.toList) = some n ∧
        maxDigits < n.digits.length := by
    simp only [index?_eq_error_iff]
    constructor
    · rintro ⟨t, n, hn, hlong, -⟩
      exact ⟨n, hn, hlong⟩
    · rintro ⟨n, hn, hlong⟩
      exact ⟨_, n, hn, hlong, rfl⟩
  have hne : ∀ digits : List Char, maxDigits < digits.length → digits ≠ [] := by
    rintro digits hlong rfl
    exact absurd hlong (by decide)
  rw [hnumeral, Overlong,
    Numeral.exists_ofChars?_iff (P := fun digits => maxDigits < digits.length)]
  constructor
  · rintro ⟨sign, hsign, digits, heq, -, hdigits, hlong⟩
    exact ⟨sign, hsign, digits, heq, hdigits, hlong⟩
  · rintro ⟨sign, hsign, digits, heq, hdigits, hlong⟩
    exact ⟨sign, hsign, digits, heq, hne digits hlong, hdigits, hlong⟩

/-- A segment with a digit is not blank. -/
theorem blank_of_isDigit {segment : String} {c : Char} (hc : c ∈ segment.toList)
    (h : isDigit c = true) : blank segment = false := by
  rw [blank, List.all_eq_false]
  exact ⟨c, hc, by simp [isBlank_of_isDigit h]⟩

theorem blank_of_numeral {segment : String} {n : Numeral}
    (h : Numeral.ofChars? (dropFinalNewline segment.toList) = some n) : blank segment = false := by
  obtain ⟨hne, hdigits, sign, -, heq⟩ := Numeral.ofChars?_eq_some_iff.1 h
  obtain ⟨d, digits, hd⟩ := List.exists_cons_of_ne_nil hne
  have hmem : d ∈ dropFinalNewline segment.toList := by
    rw [heq, hd]
    simp
  exact blank_of_isDigit (mem_of_mem_dropFinalNewline hmem) (hdigits d (by rw [hd]; simp))

theorem dropFinalNewline_toDigits (n : Nat) :
    dropFinalNewline (Nat.toDigits 10 n) = Nat.toDigits 10 n := by
  refine dropFinalNewline_of_ne fun h => ?_
  have hdigit := isDigit_of_mem_toDigits (List.mem_of_getLast? h)
  exact ne_of_isDigit hdigit (by decide) rfl

/-- A number is read back from its decimal digits. -/
theorem index?_decimal {n : Nat} (h : (Nat.toDigits 10 n).length ≤ maxDigits) :
    index? (toString n) = .ok (some n) := by
  simp [index?, dropFinalNewline_toDigits, Numeral.ofChars?_toDigits, Numeral.value,
    Nat.not_lt.2 h, digitsValue_toDigits, Except.map]

/-! ## Names in quotes -/

theorem beforeQuote?_eq_some_iff {q : Char} (hq : q ≠ '\n') {cs inner : List Char} :
    beforeQuote? q cs = some inner ↔ dropFinalNewline cs = inner ++ [q] := by
  have hcut : ∀ line : List Char,
      (if line.getLast? = some q then some line.dropLast else none) = some inner ↔
        line = inner ++ [q] := by
    intro line
    constructor
    · intro h
      split at h
      · rename_i hlast
        obtain ⟨front, rfl⟩ := List.getLast?_eq_some_iff.1 hlast
        rw [List.dropLast_concat] at h
        rw [Option.some.inj h]
      · cases h
    · rintro rfl
      simp
  unfold beforeQuote?
  split
  · rename_i hlast
    -- the text ends in the quote, so there is no line feed to pass over
    have hline : dropFinalNewline cs = cs :=
      dropFinalNewline_of_ne (by rw [hlast]; simpa using hq)
    rw [hline, ← hcut cs, if_pos hlast]
  · exact hcut (dropFinalNewline cs)

/-- A quoted name stands between two quotes of one kind. -/
theorem quotedName?_eq_some_iff {segment name : String} :
    quotedName? segment = some name ↔
      ∃ q ∈ ['"', '\''], dropFinalNewline segment.toList = q :: (name.toList ++ [q]) := by
  have hname : ∀ {q : Char} (hq : q ≠ '\n') (rest : List Char),
      (beforeQuote? q rest).map String.ofList = some name ↔
        dropFinalNewline (q :: rest) = q :: (name.toList ++ [q]) := by
    intro q hq rest
    rw [dropFinalNewline_cons hq, List.cons_eq_cons, and_iff_right rfl,
      ← beforeQuote?_eq_some_iff hq, Option.map_eq_some_iff]
    constructor
    · rintro ⟨inner, hinner, rfl⟩
      rwa [String.toList_ofList]
    · exact fun h => ⟨_, h, String.ofList_toList⟩
  constructor
  · intro h
    unfold quotedName? at h
    split at h
    · rename_i rest hrest
      exact ⟨'"', by simp, by rw [hrest]; exact (hname (by decide) rest).1 h⟩
    · rename_i rest hrest
      exact ⟨'\'', by simp, by rw [hrest]; exact (hname (by decide) rest).1 h⟩
    · cases h
  · rintro ⟨q, hq, h⟩
    obtain ⟨rest, hrest⟩ := exists_of_dropFinalNewline_cons h
    rw [hrest] at h
    rcases List.mem_pair.1 hq with rfl | rfl
    · rw [quotedName?, hrest]
      exact (hname (by decide) rest).2 h
    · rw [quotedName?, hrest]
      exact (hname (by decide) rest).2 h

theorem dropFinalNewline_quoted {q : Char} (hq : q = '"' ∨ q = '\'') (inner : List Char) :
    dropFinalNewline (q :: (inner ++ [q])) = q :: (inner ++ [q]) := by
  have hline : q ≠ '\n' := by
    rcases hq with rfl | rfl
    · decide
    · decide
  exact dropFinalNewline_of_ne (by simpa [List.getLast?_cons] using hline)

theorem quotedName?_quoted {q : Char} (hq : q = '"' ∨ q = '\'') (name : String) :
    quotedName? (String.ofList (q :: (name.toList ++ [q]))) = some name := by
  refine quotedName?_eq_some_iff.2 ⟨q, List.mem_pair.2 hq, ?_⟩
  rw [String.toList_ofList, dropFinalNewline_quoted hq]

/-- What begins with a quote is no number. -/
theorem index?_quoted {q : Char} (hq : q = '"' ∨ q = '\'') (name : String) :
    index? (String.ofList (q :: (name.toList ++ [q]))) = .ok none := by
  have hnone : Numeral.ofChars? (q :: (name.toList ++ [q])) = none := by
    have hdouble : isDigit '"' = false := by decide
    have hsingle : isDigit '\'' = false := by decide
    rcases hq with rfl | rfl
    · simp [Numeral.ofChars?, Numeral.ofDigits?, hdouble]
    · simp [Numeral.ofChars?, Numeral.ofDigits?, hsingle]
  rw [index?, String.toList_ofList, dropFinalNewline_quoted hq, hnone]

end ScriptGateway.Path
