import ScriptGateway.Proofs.Command.Serialization
import ScriptGateway.Proofs.Command.Sharing
import ScriptGateway.Proofs.Naming.Stable
import ScriptGateway.Proofs.Text.Numerals

/-!
# Variables are identifiers

A script names its variables without quotes. Whatever characters a name has, the stem that is made
of it begins with a small letter of ASCII, has small letters, digits and underscores only, and does
not end in an underscore (`Naming.isStem_variableStem`): the phrase behind the name is low already,
and what is no ASCII letter or digit in it gives way to underscores, which are trimmed off. A stem
with a counter behind it is an identifier (`Specifier.isIdentifier_variableName`), and so is every
variable that the script of a call binds (`variables_identifiers`).
-/

set_option autoImplicit false

namespace ScriptGateway

open Text

/-! ## Stems -/

namespace Naming

/-- What a stem is made of. -/
def isStemChar (c : Char) : Bool := isAsciiLower c || isAsciiDigit c || c = '_'

theorem isAsciiAlnum_of_isStemChar {c : Char} (h : isStemChar c = true) :
    isAsciiAlnum c = true ∨ c = '_' := by
  simp only [isStemChar, Bool.or_eq_true, decide_eq_true_eq] at h
  rcases h with (hlower | hdigit) | rfl
  · exact .inl (by rw [isAsciiAlnum, isAsciiLetter, hlower, Bool.or_true, Bool.true_or])
  · exact .inl (by rw [isAsciiAlnum, hdigit, Bool.or_true])
  · exact .inr rfl

/-- A small letter of ASCII, then small letters, digits and underscores, the last of which is no
underscore. -/
structure IsStem (cs : List Char) : Prop where
  first : ∃ c rest, cs = c :: rest ∧ isAsciiLower c = true ∧ ∀ d ∈ rest, isStemChar d = true
  last : cs.getLast? ≠ some '_'

theorem isStemChar_of_mem_stem {cs : List Char} {c : Char}
    (h : c ∈ trimWhile (· = '_') (underscoreRuns false (phrase cs))) : isStemChar c = true := by
  rcases mem_underscoreRuns (mem_of_mem_trimWhile h) with ⟨halnum, hmem⟩ | rfl
  · -- a phrase has no capitals
    have hupper := (mem_phrase hmem).1.isAsciiUpper_eq
    rw [isAsciiAlnum, isAsciiLetter, hupper, Bool.false_or] at halnum
    rw [isStemChar, halnum, Bool.true_or]
  · rfl

theorem isStem_variableStem (name : String) : IsStem (variableStem name).toList := by
  unfold variableStem
  split
  · have hrest : ∀ d ∈ ['b', 'j'], isStemChar d = true := List.all_eq_true.1 rfl
    exact ⟨⟨'o', ['b', 'j'], rfl, rfl, hrest⟩, by decide⟩
  · rename_i c rest htrim
    have hchars : ∀ d ∈ c :: rest, isStemChar d = true :=
      fun d hd => isStemChar_of_mem_stem (htrim ▸ hd)
    have hfirst : c ≠ '_' := by
      have h := eq_false_of_head?_trimWhile (congrArg List.head? htrim)
      simpa using h
    have hlast : (c :: rest).getLast? ≠ some '_' := by
      rw [← htrim]
      intro h
      exact absurd (eq_false_of_getLast?_trimWhile h) (by decide)
    rw [String.toList_ofList]
    split
    · exact ⟨⟨'p', c :: rest, rfl, by decide, hchars⟩, by rwa [List.getLast?_cons_cons]⟩
    · rename_i hdigit
      have hlow : isAsciiLower c = true := by
        simpa [isStemChar, hdigit, hfirst] using hchars c List.mem_cons_self
      exact ⟨⟨c, rest, rfl, hlow, fun d hd => hchars d (List.mem_cons_of_mem c hd)⟩, hlast⟩

end Naming

/-! ## Identifiers -/

/-- A letter of ASCII, then letters, digits and underscores. The last character is a digit, which
tells the identifier from all words of the language. -/
structure Script.IsIdentifier (s : String) : Prop where
  chars : ∃ c rest, s.toList = c :: rest ∧ isAsciiLetter c = true ∧
    ∀ d ∈ rest, isAsciiAlnum d = true ∨ d = '_'
  numbered : ∃ d, s.toList.getLast? = some d ∧ isAsciiDigit d = true

theorem Specifier.isIdentifier_variableName {stem : String} (h : Naming.IsStem stem.toList)
    (n : Nat) : Script.IsIdentifier (variableName stem n) := by
  obtain ⟨c, rest, hstem, hc, hrest⟩ := h.first
  have hdigits : ∀ d ∈ Nat.toDigits 10 n, isAsciiDigit d = true :=
    fun _ => isAsciiDigit_of_mem_toDigits
  refine ⟨⟨c, rest ++ Nat.toDigits 10 n, ?_, ?_, fun d hd => ?_⟩, ?_⟩
  · rw [variableName_toList, hstem, List.cons_append]
  · rw [isAsciiLetter, hc, Bool.or_true]
  · rcases List.mem_append.1 hd with hd | hd
    · exact Naming.isAsciiAlnum_of_isStemChar (hrest d hd)
    · exact .inl (by rw [isAsciiAlnum, hdigits d hd, Bool.or_true])
  · have hne : Nat.toDigits 10 n ≠ [] := Nat.toDigits_ne_nil
    refine ⟨(Nat.toDigits 10 n).getLast hne, ?_, hdigits _ (List.getLast_mem hne)⟩
    rw [variableName_toList, List.getLast?_append_of_ne_nil _ hne,
      List.getLast?_eq_some_getLast hne]

variable {classes : ClassRegistry} {commands : CommandRegistry} {name : String}
  {values : OrderedMap String String}

/-- The variables that a call assigns are those of its specifiers. -/
theorem Call.assigned_statements {k : Call} (h : call classes commands name values = .ok k) :
    Script.assigned k.statements =
      (specifiers classes values k.command.parameters).flatMap (·.names) := by
  obtain ⟨c, args, -, hargs, rfl⟩ := call_eq_ok_iff.1 h
  have hstems : ∀ s ∈ specifiers classes values c.parameters, Script.IsWord s.stem :=
    specifiers_stem_isWord
  have hwords := Specifier.isWord_of_mem_flatMap hstems
  exact (congrArg _ (arguments_statements hargs)).trans
    ((Script.assigned_lines hwords).trans (Specifier.map_name_flatMap _))

/-- **Variables are identifiers**: the stem that is made of a name begins with a small letter, has
small letters, digits and underscores only and does not end in an underscore, whatever the name is.
With a counter behind it, it is an identifier, and so is every variable that a call assigns. -/
theorem variables_identifiers :
    (∀ name, Naming.IsStem (Naming.variableStem name).toList) ∧
      (∀ name n, Script.IsIdentifier (Specifier.variableName (Naming.variableStem name) n)) ∧
      ∀ classes commands name values k, call classes commands name values = .ok k →
        ∀ v ∈ Script.assigned k.statements, Script.IsIdentifier v ∧
          ∃ p ∈ k.command.parameters, ∃ n,
            v = Specifier.variableName (Naming.variableStem p.name) n := by
  refine ⟨Naming.isStem_variableStem,
    fun name => Specifier.isIdentifier_variableName (Naming.isStem_variableStem name),
    fun classes commands name values k hk v hv => ?_⟩
  rw [Call.assigned_statements hk] at hv
  obtain ⟨s, hs, hname⟩ := List.mem_flatMap.1 hv
  obtain ⟨p, hp, htaken⟩ := List.mem_filterMap.1 hs
  obtain ⟨-, raw, -, hresolved⟩ := Call.specifier?_eq_some.1 htaken
  obtain ⟨-, -, -, -, -, hstem, -⟩ := resolve_ok_iff.1 hresolved
  obtain ⟨n, -, rfl⟩ := Specifier.mem_names.1 hname
  rw [hstem]
  exact ⟨Specifier.isIdentifier_variableName (Naming.isStem_variableStem p.name) n, p, hp, n, rfl⟩

/-- A parameter whose name begins with a digit, has capitals and ends in a letter beyond ASCII. -/
theorem variables_identifiers_playlist :
    ∃ r k c, ClassRegistry.empty.load shelf [] = .ok r ∧
      CommandRegistry.empty.load [⟨"add", [⟨"2nd-Playlist: É", "playlist", false⟩]⟩]
        (shelf.map (·.name)) = .ok k ∧
      call r k "add" (.ofList [("2nd-Playlist: É", "/playlists/1")]) = .ok c ∧
      Script.assigned c.statements = ["p2nd_playlist0", "p2nd_playlist1"] ∧
      ∀ v ∈ ["p2nd_playlist0", "p2nd_playlist1"], Script.IsIdentifier v := by
  obtain ⟨r, k, c, hr, hk, hc, hP⟩ := exists_called shelf
    [⟨"add", [⟨"2nd-Playlist: É", "playlist", false⟩]⟩] "add"
    (.ofList [("2nd-Playlist: É", "/playlists/1")])
    (fun c => decide (Script.assigned c.statements = ["p2nd_playlist0", "p2nd_playlist1"]))
    (by decide +kernel)
  have hassigned := of_decide_eq_true hP
  have hall := variables_identifiers.2.2 _ _ _ _ _ hc
  rw [hassigned] at hall
  exact ⟨r, k, c, hr, hk, hc, hassigned, fun v hv => (hall v hv).1⟩

end ScriptGateway
