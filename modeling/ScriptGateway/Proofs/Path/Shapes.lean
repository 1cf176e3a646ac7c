import ScriptGateway.Proofs.Command.Table
import ScriptGateway.Proofs.Path.Segments

/-!
# Shapes of segments

A segment is taken by its shape: for the name of a command, for an index or for a name in quotes.
Each reader takes a text exactly when it has the shape, or when one line feed stands behind a text
that has it (`Command.isName_iff`, `exists_index?_iff`, `quotedName?_iff`). So the readers keep to
the shapes on all texts but the latter, and the name of a command is a single line exactly when it
has its shape (`shapes_read`).
-/

set_option autoImplicit false

namespace ScriptGateway

open Text

namespace Path

/-- A shape of texts; none of them ends in a line feed. -/
structure Shape where
  Fits : List Char → Prop
  not_fits_line : ∀ front, ¬Fits (front ++ ['\n'])

namespace Shape

/-- The text has the shape but for one line feed behind it. -/
def FitsLine (s : Shape) (cs : List Char) : Prop := ∃ front, cs = front ++ ['\n'] ∧ s.Fits front

theorem fits_dropFinalNewline_iff {s : Shape} {cs : List Char} :
    s.Fits (dropFinalNewline cs) ↔ s.Fits cs ∨ s.FitsLine cs := by
  constructor
  · intro h
    unfold dropFinalNewline at h
    split at h
    · rename_i hlast
      obtain ⟨front, rfl⟩ := List.getLast?_eq_some_iff.1 hlast
      rw [List.dropLast_concat] at h
      exact .inr ⟨front, rfl, h⟩
    · exact .inl h
  · rintro (h | ⟨front, rfl, h⟩)
    · have hlast : cs.getLast? ≠ some '\n' := by
        intro hlast
        obtain ⟨front, rfl⟩ := List.getLast?_eq_some_iff.1 hlast
        exact s.not_fits_line front h
      rwa [dropFinalNewline_of_ne hlast]
    · rwa [dropFinalNewline_append]

theorem not_fits_of_fitsLine {s : Shape} {cs : List Char} (h : s.FitsLine cs) : ¬s.Fits cs := by
  obtain ⟨front, rfl, -⟩ := h
  exact s.not_fits_line front

/-- A reader that passes over a final line feed keeps to the shape where there is none. -/
theorem kept_iff {s : Shape} {cs : List Char} {read : Prop}
    (h : read ↔ s.Fits cs ∨ s.FitsLine cs) : (read ↔ s.Fits cs) ↔ ¬s.FitsLine cs := by
  rw [h, or_iff_left_iff_imp]
  exact ⟨fun himp hline => not_fits_of_fitsLine hline (himp hline),
    fun hnot hline => absurd hline hnot⟩

/-! ## The shapes -/

/-- A letter, then letters, digits, spaces, underscores and hyphens, all of them of ASCII. -/
def NameText (cs : List Char) : Prop :=
  ∃ c rest, cs = c :: rest ∧ c.isAlpha = true ∧
    ∀ d ∈ rest, d.isAlphanum = true ∨ d ∈ [' ', '_', '-']

theorem NameText.notMem {cs : List Char} {d : Char} (h : NameText cs)
    (halnum : d.isAlphanum = false) (hd : d ∉ [' ', '_', '-']) : d ∉ cs := by
  obtain ⟨c, rest, rfl, hc, hrest⟩ := h
  intro hmem
  rcases List.mem_cons.1 hmem with rfl | hmem
  · rw [Char.isAlphanum, hc] at halnum
    cases halnum
  · rcases hrest d hmem with halnum' | hd'
    · rw [halnum] at halnum'
      cases halnum'
    · exact hd hd'

theorem NameText.newline_notMem {cs : List Char} (h : NameText cs) : '\n' ∉ cs :=
  h.notMem (by decide) (by decide)

def name : Shape where
  Fits := NameText
  not_fits_line front h := h.newline_notMem (by simp)

/-- An optional sign, then decimal digits, at least one and no more than are converted. -/
def index : Shape where
  Fits cs := ∃ sign ∈ [[], ['+'], ['-']], ∃ digits, cs = sign ++ digits ∧ digits ≠ [] ∧
    (∀ c ∈ digits, isDigit c = true) ∧ digits.length ≤ maxDigits
  not_fits_line := by
    rintro front ⟨sign, -, digits, hcs, hne, hdigits, -⟩
    have hlast : digits.getLast? = some '\n' := by
      rw [← List.getLast?_append_of_ne_nil sign hne, ← hcs, List.getLast?_concat]
    exact ne_of_isDigit (hdigits _ (List.mem_of_getLast? hlast)) (by decide) rfl

/-- A quote of one of the two kinds, the name, and the same quote. -/
def quoted (x : String) : Shape where
  Fits cs := ∃ q ∈ ['"', '\''], cs = q :: (x.toList ++ [q])
  not_fits_line := by
    rintro front ⟨q, hq, hcs⟩
    have hlast : q = '\n' := by
      have hends := congrArg List.getLast? hcs
      simpa [List.getLast?_cons, eq_comm] using hends
    rw [hlast] at hq
    exact absurd hq (by decide)

end Shape

end Path

/-! ## The readers -/

theorem Command.isNameChar_iff {c : Char} :
    Command.isNameChar c = true ↔ c.isAlphanum = true ∨ c ∈ [' ', '_', '-'] := by
  simp [Command.isNameChar, isAsciiAlnum_eq, or_assoc]

theorem Command.isName_iff {token : String} :
    Command.isName token = true ↔
      Path.Shape.name.Fits token.toList ∨ Path.Shape.name.FitsLine token.toList := by
  rw [← Path.Shape.fits_dropFinalNewline_iff]
  unfold Command.isName
  constructor
  · intro h
    split at h
    · rename_i c rest hcs
      rw [Bool.and_eq_true, isAsciiLetter_eq] at h
      exact ⟨c, rest, hcs, h.1, fun d hd => Command.isNameChar_iff.1 (List.all_eq_true.1 h.2 d hd)⟩
    · cases h
  · rintro ⟨c, rest, hcs, hc, hrest⟩
    rw [hcs]
    refine Bool.and_eq_true_iff.2 ?_
    rw [isAsciiLetter_eq]
    exact ⟨hc, List.all_eq_true.2 fun d hd => Command.isNameChar_iff.2 (hrest d hd)⟩

theorem Path.exists_index?_iff {segment : String} :
    (∃ n, index? segment = .ok (some n)) ↔
      Shape.index.Fits segment.toList ∨ Shape.index.FitsLine segment.toList := by
  have hnumeral : (∃ n, index? segment = .ok (some n)) ↔
      ∃ n, Numeral.ofChars? (dropFinalNewline segment.toList) = some n ∧
        n.digits.length ≤ maxDigits := by
    unfold index?
    cases Numeral.ofChars? (dropFinalNewline segment.toList) with
    | none => simp
    | some n => simp [Outcome.map_eq_ok, Numeral.exists_value_iff]
  rw [hnumeral, ← Shape.fits_dropFinalNewline_iff]
  exact Numeral.exists_ofChars?_iff (P := fun digits => digits.length ≤ maxDigits)

theorem Path.quotedName?_iff {segment x : String} :
    quotedName? segment = some x ↔
      (Shape.quoted x).Fits segment.toList ∨ (Shape.quoted x).FitsLine segment.toList := by
  rw [← Shape.fits_dropFinalNewline_iff]
  exact quotedName?_eq_some_iff

/-! ## What the readers keep to -/

/-- The readers take the text for what has its shape, and for nothing else. -/
def Path.KeepsShapes (t : String) : Prop :=
  (Command.isName t = true ↔ Shape.name.Fits t.toList) ∧
    ((∃ n, index? t = .ok (some n)) ↔ Shape.index.Fits t.toList) ∧
    ∀ x, quotedName? t = some x ↔ (Shape.quoted x).Fits t.toList

theorem Path.keepsShapes_iff {t : String} :
    KeepsShapes t ↔ ¬Shape.name.FitsLine t.toList ∧ ¬Shape.index.FitsLine t.toList ∧
      ∀ x, ¬(Shape.quoted x).FitsLine t.toList := by
  refine and_congr (Shape.kept_iff Command.isName_iff)
    (and_congr (Shape.kept_iff exists_index?_iff) (forall_congr' fun x => ?_))
  exact Shape.kept_iff quotedName?_iff

/-- The name of a command in a loaded table has its shape but for a line feed at the very end. -/
theorem CommandRegistry.name_fits {ds : List CommandDecl} {classNames : List String}
    {k : CommandRegistry} (h : empty.load ds classNames = .ok k) {c : Command} (hc : c ∈ k.list) :
    (Path.Shape.name.Fits c.name.toList ∨ Path.Shape.name.FitsLine c.name.toList) ∧
      ('\n' ∉ c.name.toList ↔ Path.Shape.name.Fits c.name.toList) := by
  have hfits := Command.isName_iff.1 (lookup?_name_of_mem h hc).1
  refine ⟨hfits, fun hline => hfits.resolve_right ?_, Path.Shape.NameText.newline_notMem⟩
  rintro ⟨front, heq, -⟩
  exact hline (by rw [heq]; simp)

/-- **The readers of segments and their shapes**: each takes the texts of its shape, with a line
feed behind them or without, and no others. They keep to the shapes but for texts with that line
feed, and the name of a loaded command is a single line exactly when it has its shape. -/
theorem Path.shapes_read (t : String) :
    ((Command.isName t = true ↔ Shape.name.Fits t.toList ∨ Shape.name.FitsLine t.toList) ∧
      ((∃ n, index? t = .ok (some n)) ↔
        Shape.index.Fits t.toList ∨ Shape.index.FitsLine t.toList) ∧
      ∀ x, quotedName? t = some x ↔
        (Shape.quoted x).Fits t.toList ∨ (Shape.quoted x).FitsLine t.toList) ∧
    (KeepsShapes t ↔ ¬Shape.name.FitsLine t.toList ∧ ¬Shape.index.FitsLine t.toList ∧
      ∀ x, ¬(Shape.quoted x).FitsLine t.toList) ∧
    ∀ ds classNames k, CommandRegistry.empty.load ds classNames = .ok k →
      t ∈ k.list.map (·.name) →
        (Shape.name.Fits t.toList ∨ Shape.name.FitsLine t.toList) ∧
          ('\n' ∉ t.toList ↔ Shape.name.Fits t.toList) := by
  refine ⟨⟨Command.isName_iff, exists_index?_iff, fun x => quotedName?_iff⟩, keepsShapes_iff, ?_⟩
  intro ds classNames k hload ht
  obtain ⟨c, hc, rfl⟩ := List.mem_map.1 ht
  exact CommandRegistry.name_fits hload hc

theorem Path.shapes_read_play :
    ∃ k, CommandRegistry.empty.load [⟨"next track", []⟩] [] = .ok k ∧
      k.list = [⟨"next track", []⟩] ∧ Shape.name.Fits "next track".toList := by
  refine ⟨⟨some ⟨.ofList [(Key.of "next track", ⟨"next track", []⟩)]⟩⟩, by rfl, by rfl, ?_⟩
  have h := (shapes_read "next track").2.2 [⟨"next track", []⟩] [] _ (by rfl) List.mem_cons_self
  exact h.2.1 (by decide)

/-- A line feed at the very end is passed over, also in the declaration of a command. -/
theorem Path.line_feed_passed_over :
    (Command.isName "play\n" = true ∧ ¬Shape.name.Fits "play\n".toList) ∧
    (index? "1\n" = .ok (some 1) ∧ ¬Shape.index.Fits "1\n".toList) ∧
    (quotedName? "\"a\"\n" = some "a" ∧ ¬(Shape.quoted "a").Fits "\"a\"\n".toList) ∧
    ∃ k, CommandRegistry.empty.load [⟨"play\n", []⟩] [] = .ok k ∧ k.list = [⟨"play\n", []⟩] := by
  refine ⟨⟨by decide, Shape.name.not_fits_line "play".toList⟩,
    ⟨by decide, Shape.index.not_fits_line "1".toList⟩,
    ⟨by decide, (Shape.quoted "a").not_fits_line "\"a\"".toList⟩, ?_⟩
  exact ⟨⟨some ⟨.ofList [(Key.of "play\n", ⟨"play\n", []⟩)]⟩⟩, by rfl, by rfl⟩

end ScriptGateway
