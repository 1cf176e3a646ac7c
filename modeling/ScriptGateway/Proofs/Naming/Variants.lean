import Mathlib.Data.List.Chain
import ScriptGateway.Proofs.Naming.Parting
import ScriptGateway.Text.Join

/-!
# Spellings of a phrase

A phrase is a row of words, and a `Variant` is one way to write it: two words are parted by a run of
white space, underscores and hyphens, or by nothing and a capital, and further runs may stand around
the whole. Whatever is chosen for each boundary, the key is the words joined by single spaces
(`Key.of_variant`), as long as no two neighbouring words are single letters that are both written as
capitals: these would be taken for one word.

The proof follows the pieces of a variant. What it has to know of those read so far is whether the
last one was a single capital (`Ends`).
-/

set_option autoImplicit false

namespace ScriptGateway

open Text

namespace Naming

/-! ## Phrases and their variants -/

/-- A word of a phrase: a small letter, or two of them with small letters and digits after them. -/
inductive Word
  | letter (c : Char) (hc : isAsciiLower c = true)
  | longer (a b : Char) (rest : List Char) (ha : isAsciiLower a = true)
      (hb : isAsciiLower b = true) (hrest : ∀ c ∈ rest, isWordChar c = true)

namespace Word

def chars : Word → List Char
  | letter c _ => [c]
  | longer a b rest _ _ _ => a :: b :: rest

/-- The word with a capital at its front. -/
def capitalised : Word → List Char
  | letter c _ => [c.toUpper]
  | longer a b rest _ _ _ => a.toUpper :: b :: rest

end Word

/-- A row of white space, underscores and hyphens. -/
structure Gap where
  chars : List Char
  valid : ∀ c ∈ chars, isDivider c = true

/-- What stands between two words. -/
inductive Boundary
  | gap (g : Gap) (hg : g.chars ≠ [])
  /-- Nothing but the capital of the next word. -/
  | hump

/-- A word after the first one, with the boundary before it. -/
structure Piece where
  boundary : Boundary
  word : Word

namespace Piece

def chars (p : Piece) : List Char :=
  match p.boundary with
  | .gap g _ => g.chars ++ p.word.chars
  | .hump => p.word.capitalised

/-- The word is a single letter that is written as a capital. -/
def isLoneCapital (p : Piece) : Bool :=
  match p.boundary, p.word with
  | .hump, .letter _ _ => true
  | _, _ => false

end Piece

/-- A way to write a phrase. -/
structure Variant where
  lead : Gap
  first : Word
  others : List Piece
  trail : Gap

namespace Variant

def text (v : Variant) : String :=
  String.ofList (v.lead.chars ++ v.first.chars ++ v.others.flatMap (·.chars) ++ v.trail.chars)

def words (v : Variant) : List Word := v.first :: v.others.map (·.word)

/-- The words, joined by single spaces. -/
def phrase (v : Variant) : String := joinWith " " (v.words.map fun w => String.ofList w.chars)

/-- No two neighbouring words are single letters that are both written as capitals. -/
def Legible (v : Variant) : Prop :=
  (v.others.map (·.isLoneCapital)).IsChain fun before after => ¬(before = true ∧ after = true)

end Variant

/-! ## Reading variants -/

theorem Word.valid (w : Word) : ∀ c ∈ w.chars, isWordChar c = true := by
  cases w with
  | letter c hc => simpa [chars] using isWordChar_of_isAsciiLower hc
  | longer a b rest ha hb hrest =>
    exact List.forall_mem_cons.2 ⟨isWordChar_of_isAsciiLower ha,
      List.forall_mem_cons.2 ⟨isWordChar_of_isAsciiLower hb, hrest⟩⟩

theorem Word.chars_ne_nil (w : Word) : w.chars ≠ [] := by
  cases w <;> simp [chars]

/-- What is known of the character before a piece; `lone` tells that it is a single capital. -/
def Ends (lone : Bool) (a : Char) : Prop :=
  if lone then isAsciiUpper a = true else isWordChar a = true

theorem ends_getLastD {a : Char} {cs : List Char} (h : ∀ c ∈ cs, isWordChar c = true)
    (hne : cs ≠ []) : Ends false (cs.getLastD a) := by
  rw [List.getLastD_eq_getLast?, List.getLast?_eq_some_getLast hne]
  exact h _ (List.getLast_mem hne)

/-- Before a word in small letters nothing is parted. -/
theorem keyAfter_gap_word (g : Gap) (w : Word) (a : Char) :
    ∃ a', Ends false a' ∧ ∀ rest,
      keyAfter a (g.chars ++ w.chars ++ rest) = space g.chars ++ w.chars ++ keyAfter a' rest := by
  refine ⟨_, ends_getLastD (a := g.chars.getLastD a) w.valid w.chars_ne_nil, fun rest => ?_⟩
  have hgap : ∀ c ∈ g.chars, isAsciiUpper c = false := fun c hc => (divider_plain (g.valid c hc)).1
  have hword : ∀ c ∈ w.chars, isAsciiUpper c = false :=
    fun c hc => isAsciiUpper_of_isWordChar (w.valid c hc)
  have hplain : ∀ c ∈ w.chars, isSeparator c = false :=
    fun c hc => isSeparator_of_isWordChar (w.valid c hc)
  rw [keyAfter, List.append_assoc, partAfter_append hgap, partAfter_append hword,
    List.flatMap_append, List.flatMap_append, flatMap_tidy_word w.valid, joinRuns_gap g.valid,
    joinRuns_word hplain w.chars_ne_nil, List.append_assoc]
  rfl

/-- A capital parts its word from the one before, unless both are single letters. -/
theorem keyAfter_capitalised (w : Word) {lone : Bool} {a : Char} (ha : Ends lone a)
    (hlone : lone = true → (Piece.mk .hump w).isLoneCapital = false) :
    ∃ a', Ends (Piece.mk .hump w).isLoneCapital a' ∧ ∀ rest,
      keyAfter a (w.capitalised ++ rest) = ' ' :: w.chars ++ keyAfter a' rest := by
  have hunderscore : tidy '_' = ['_'] ∧ isSeparator '_' = true := by decide
  -- the two passes meet at the capital: one looks at the letter after it, the other before it
  have hparts : ∀ {b : Char} {next? : Option Char}, isAsciiUpper b = true →
      (lone = true → next?.any isAsciiLower = true) → parts a b next? = true := by
    intro b next? hb hnext
    cases lone with
    | true =>
      have ha : isAsciiUpper a = true := ha
      simp [parts, hb, ha, hnext rfl]
    | false =>
      have ha : isWordChar a = true := ha
      obtain ⟨-, -, -, hsmall | hdigit⟩ := wordChar_plain ha
      · simp [parts, hb, hsmall]
      · simp [parts, hb, hdigit]
  cases w with
  | letter c hc =>
    obtain ⟨hupper, -, htidy⟩ := capital_of_isAsciiLower hc
    have hplain := isSeparator_of_isWordChar (isWordChar_of_isAsciiLower hc)
    refine ⟨c.toUpper, hupper, fun rest => ?_⟩
    have hbegins : parts a c.toUpper rest.head? = true :=
      hparts hupper fun htrue => absurd (hlone htrue) (by simp [Piece.isLoneCapital])
    simp [keyAfter, Word.capitalised, Word.chars, partAfter, hbegins, hunderscore, htidy, joinRuns,
      hplain]
  | longer c d more hc hd hmore =>
    obtain ⟨hupper, -, htidy⟩ := capital_of_isAsciiLower hc
    have hplain := isSeparator_of_isWordChar (isWordChar_of_isAsciiLower hc)
    have htail : ∀ x ∈ d :: more, isWordChar x = true :=
      List.forall_mem_cons.2 ⟨isWordChar_of_isAsciiLower hd, hmore⟩
    refine ⟨(d :: more).getLastD c.toUpper, ends_getLastD htail (by simp), fun rest => ?_⟩
    have hbegins : parts a c.toUpper (d :: more ++ rest).head? = true :=
      hparts hupper fun _ => by simpa using hd
    have hwhole : keyAfter a (c.toUpper :: (d :: more ++ rest)) =
        ' ' :: c :: keyAfter c.toUpper (d :: more ++ rest) := by
      simp only [keyAfter, partAfter, hbegins, ite_true, List.flatMap_cons, hunderscore, htidy]
      simp [joinRuns, hunderscore, hplain]
    have hrest : keyAfter c.toUpper (d :: more ++ rest) =
        d :: more ++ keyAfter ((d :: more).getLastD c.toUpper) rest := by
      rw [keyAfter, partAfter_append fun x hx => isAsciiUpper_of_isWordChar (htail x hx),
        List.flatMap_append, flatMap_tidy_word htail,
        joinRuns_word (fun x hx => isSeparator_of_isWordChar (htail x hx)) (by simp)]
      rfl
    have hcons : Word.capitalised (.longer c d more hc hd hmore) ++ rest =
        c.toUpper :: (d :: more ++ rest) := rfl
    rw [hcons, hwhole, hrest]
    rfl

/-- Each piece adds a space and its word. -/
theorem keyAfter_piece (p : Piece) {lone : Bool} {a : Char} (ha : Ends lone a)
    (hlone : ¬(lone = true ∧ p.isLoneCapital = true)) :
    ∃ a', Ends p.isLoneCapital a' ∧ ∀ rest,
      keyAfter a (p.chars ++ rest) = ' ' :: p.word.chars ++ keyAfter a' rest := by
  obtain ⟨boundary, w⟩ := p
  cases boundary with
  | gap g hg =>
    obtain ⟨a', ha', hkey⟩ := keyAfter_gap_word g w a
    have hspace : space g.chars = [' '] := by
      obtain ⟨c, cs, hcs⟩ := List.exists_cons_of_ne_nil hg
      rw [hcs]
      rfl
    refine ⟨a', ha', fun rest => ?_⟩
    rw [Piece.chars, hkey, hspace]
    rfl
  | hump =>
    exact keyAfter_capitalised w ha fun htrue => by
      simpa [htrue] using hlone

/-- A row of pieces adds a space and a word for each. The induction is on the pieces, for every
character before them. -/
theorem keyAfter_pieces {pieces : List Piece} {trail : List Char} {lone : Bool} {a : Char}
    (ha : Ends lone a) (htrail : ∀ c ∈ trail, isDivider c = true)
    (h : (lone :: pieces.map (·.isLoneCapital)).IsChain fun before after =>
      ¬(before = true ∧ after = true)) :
    keyAfter a (pieces.flatMap (·.chars) ++ trail) =
      pieces.flatMap (fun p => ' ' :: p.word.chars) ++ space trail := by
  induction pieces generalizing lone a with
  | nil => exact keyAfter_gap htrail a
  | cons p pieces ih =>
    rw [List.map_cons, List.isChain_cons_cons] at h
    obtain ⟨hfirst, hrest⟩ := h
    obtain ⟨a', ha', hkey⟩ := keyAfter_piece p ha hfirst
    rw [List.flatMap_cons, List.append_assoc, hkey, ih ha' hrest, List.flatMap_cons,
      List.append_assoc]

/-! ## Whole variants -/

/-- The text ends in a character that is not blank. -/
def EndsPlain (cs : List Char) : Prop := ∃ front d, cs = front ++ [d] ∧ isBlank d = false

theorem EndsPlain.append {cs : List Char} (h : EndsPlain cs) (front : List Char) :
    EndsPlain (front ++ cs) := by
  obtain ⟨rest, d, rfl, hd⟩ := h
  exact ⟨front ++ rest, d, (List.append_assoc _ _ _).symm, hd⟩

theorem EndsPlain.flatMap {α : Type} {f : α → List Char} {xs : List α} {cs : List Char}
    (h : EndsPlain cs) (hf : ∀ x ∈ xs, EndsPlain (f x)) : EndsPlain (cs ++ xs.flatMap f) := by
  induction xs generalizing cs with
  | nil => simpa using h
  | cons x xs ih =>
    obtain ⟨hx, hxs⟩ := List.forall_mem_cons.1 hf
    rw [List.flatMap_cons, ← List.append_assoc]
    exact ih (hx.append cs) hxs

theorem endsPlain_of_isWordChar {cs : List Char} (h : ∀ c ∈ cs, isWordChar c = true)
    (hne : cs ≠ []) : EndsPlain cs :=
  ⟨cs.dropLast, cs.getLast hne, (List.dropLast_append_getLast hne).symm,
    isBlank_of_isWordChar (h _ (List.getLast_mem hne))⟩

theorem Word.endsPlain (w : Word) : EndsPlain w.chars :=
  endsPlain_of_isWordChar w.valid w.chars_ne_nil

theorem Word.endsPlain_capitalised (w : Word) : EndsPlain w.capitalised := by
  cases w with
  | letter c hc => exact ⟨[], c.toUpper, rfl, (capital_of_isAsciiLower hc).2.1⟩
  | longer a b rest _ hb hrest =>
    have htail : ∀ c ∈ b :: rest, isWordChar c = true :=
      List.forall_mem_cons.2 ⟨isWordChar_of_isAsciiLower hb, hrest⟩
    exact (endsPlain_of_isWordChar htail (by simp)).append [a.toUpper]

theorem Piece.endsPlain (p : Piece) : EndsPlain p.chars := by
  obtain ⟨boundary, w⟩ := p
  cases boundary with
  | gap g _ => exact w.endsPlain.append g.chars
  | hump => exact w.endsPlain_capitalised

theorem Word.exists_cons (w : Word) : ∃ c rest, w.chars = c :: rest ∧ isBlank c = false := by
  obtain ⟨c, rest, hcons⟩ := List.exists_cons_of_ne_nil w.chars_ne_nil
  exact ⟨c, rest, hcons, isBlank_of_isWordChar (w.valid c (by simp [hcons]))⟩

/-- Trimming a text that begins with a word. -/
theorem trimWhile_word (w : Word) {more : List Char} (h : EndsPlain (w.chars ++ more))
    (lead trail : List Char) :
    trimWhile isBlank (lead ++ (w.chars ++ more) ++ trail) =
      lead.dropWhile isBlank ++ (w.chars ++ more) ++ dropEndWhile isBlank trail := by
  obtain ⟨c, rest, hcons, hc⟩ := w.exists_cons
  obtain ⟨front, d, hlast, hd⟩ := h
  have hfirst : w.chars ++ more = c :: (rest ++ more) := by rw [hcons, List.cons_append]
  exact trimWhile_append hfirst hc hlast hd lead trail

theorem toList_joinWith_space (w : String) (ws : List String) :
    (joinWith " " (w :: ws)).toList = w.toList ++ ws.flatMap fun x => ' ' :: x.toList := by
  induction ws generalizing w with
  | nil => simp [joinWith]
  | cons x ws ih => simp [joinWith, ih]

theorem Variant.toList_phrase (v : Variant) :
    v.phrase.toList = v.first.chars ++ v.others.flatMap fun p => ' ' :: p.word.chars := by
  rw [phrase, words, List.map_cons, toList_joinWith_space, String.toList_ofList]
  simp [List.flatMap_map]

theorem Gap.sigma_notMem (g : Gap) : 'Σ' ∉ g.chars := fun h =>
  absurd (g.valid _ h) (by decide)

theorem Word.sigma_notMem (w : Word) : 'Σ' ∉ w.chars := fun h =>
  absurd (w.valid _ h) (by decide)

theorem Piece.sigma_notMem (p : Piece) : 'Σ' ∉ p.chars := by
  obtain ⟨boundary, w⟩ := p
  cases boundary with
  | gap g _ =>
    rw [chars, List.mem_append, not_or]
    exact ⟨g.sigma_notMem, w.sigma_notMem⟩
  | hump =>
    have hcapital : ∀ {c : Char}, isAsciiLower c = true → 'Σ' ≠ c.toUpper := by
      intro c hc heq
      have hupper := (capital_of_isAsciiLower hc).1
      rw [← heq] at hupper
      exact absurd hupper (by decide)
    have hword := w.sigma_notMem
    cases w with
    | letter c hc => simpa [chars, Word.capitalised] using hcapital hc
    | longer a b rest ha hb hrest =>
      simp only [Word.chars, List.mem_cons, not_or] at hword
      simpa [chars, Word.capitalised, hcapital ha] using hword.2

theorem Variant.sigma_notMem (v : Variant) : 'Σ' ∉ v.text.toList := by
  rw [text, String.toList_ofList]
  simp only [List.mem_append, List.mem_flatMap, not_or, not_exists, not_and]
  exact ⟨⟨⟨v.lead.sigma_notMem, v.first.sigma_notMem⟩, fun p _ => p.sigma_notMem⟩,
    v.trail.sigma_notMem⟩

theorem Variant.phrase_text (v : Variant) (h : v.Legible) :
    Naming.phrase v.text.toList = v.phrase.toList := by
  have hlead : ∀ c ∈ v.lead.chars.dropWhile isBlank, isDivider c = true :=
    fun c hc => v.lead.valid c ((List.dropWhile_sublist _).subset hc)
  have htrail : ∀ c ∈ dropEndWhile isBlank v.trail.chars, isDivider c = true := by
    intro c hc
    have hrev := (List.dropWhile_sublist _).subset (List.mem_reverse.1 hc)
    exact v.trail.valid c (List.mem_reverse.1 hrev)
  have htext : v.text.toList =
      v.lead.chars ++ (v.first.chars ++ v.others.flatMap (·.chars)) ++ v.trail.chars := by
    simp [text]
  have hbody : EndsPlain (v.first.chars ++ v.others.flatMap (·.chars)) :=
    v.first.endsPlain.flatMap fun p _ => p.endsPlain
  have hphrase : EndsPlain (v.first.chars ++ v.others.flatMap fun p => ' ' :: p.word.chars) :=
    v.first.endsPlain.flatMap fun p _ => p.word.endsPlain.append [' ']
  have hchain : (false :: v.others.map (·.isLoneCapital)).IsChain fun before after =>
      ¬(before = true ∧ after = true) := List.isChain_cons.2 ⟨by simp, h⟩
  obtain ⟨a, ha, hkey⟩ :=
    keyAfter_gap_word ⟨v.lead.chars.dropWhile isBlank, hlead⟩ v.first ' '
  have hread : keyAfter ' ' (trimWhile isBlank v.text.toList) =
      space (v.lead.chars.dropWhile isBlank) ++
        (v.first.chars ++ v.others.flatMap fun p => ' ' :: p.word.chars) ++
        space (dropEndWhile isBlank v.trail.chars) := by
    rw [htext, trimWhile_word v.first hbody, ← List.append_assoc, List.append_assoc, hkey,
      keyAfter_pieces ha htrail hchain]
    simp only [List.append_assoc]
  rw [phrase_eq_keyAfter v.sigma_notMem, hread, trimWhile_word v.first hphrase, dropWhile_space,
    dropEndWhile_space, v.toList_phrase, List.nil_append, List.append_nil]

end Naming

/-- **Every spelling of a phrase has its key**: the words, joined by single spaces. -/
theorem Key.of_variant (v : Naming.Variant) (h : v.Legible) : Key.of v.text = ⟨v.phrase⟩ := by
  rw [Key.of, v.phrase_text h, String.ofList_toList]

/-- A run, a letter between two words that are written in capitals, and runs around the whole. -/
def Naming.variantOfFile : Naming.Variant where
  lead := ⟨['_', ' '], List.all_eq_true.1 (by decide +kernel)⟩
  first := .longer 'm' 'y' [] (by decide) (by decide) (by simp)
  others := [
    ⟨.gap ⟨['-', '\u2003'], List.all_eq_true.1 (by decide +kernel)⟩ (by simp),
      .longer 'f' 'i' ['l', 'e'] (by decide) (by decide) (List.all_eq_true.1 (by decide))⟩,
    ⟨.hump, .letter 'b' (by decide)⟩,
    ⟨.hump, .longer 't' 'r' ['a', 'c', 'k', '2'] (by decide) (by decide)
      (List.all_eq_true.1 (by decide))⟩]
  trail := ⟨['\t'], List.all_eq_true.1 (by decide +kernel)⟩

theorem Key.of_variant_file :
    Naming.variantOfFile.Legible ∧
      Key.of "_ my-\u2003fileBTrack2\t" = ⟨"my file b track2"⟩ := by
  have hlegible : Naming.variantOfFile.Legible := by
    unfold Naming.Variant.Legible
    decide
  have hkey := Key.of_variant Naming.variantOfFile hlegible
  have htext : Naming.variantOfFile.text = "_ my-\u2003fileBTrack2\t" := by decide +kernel
  have hphrase : Naming.variantOfFile.phrase = "my file b track2" := by decide +kernel
  rw [htext, hphrase] at hkey
  exact ⟨hlegible, hkey⟩

/-- Two single capitals side by side are one word. -/
example : Key.of "fileBCTrack" = ⟨"file bc track"⟩ := by decide +kernel

end ScriptGateway
