import ScriptGateway.Proofs.OrderedMap
import ScriptGateway.Proofs.Payload.Reading
import ScriptGateway.Proofs.Text.Numerals

/-!
# Written JSON

The text that is written for a payload is a JSON text which stands for that payload
(`Plain.text_toJson`), so the reader gives the payload back, and it is all in ASCII
(`Plain.toJson_ascii`).
-/

set_option autoImplicit false

namespace ScriptGateway

open Text

/-- Payloads of texts, whole numbers that are short enough to be converted, truth values, nulls,
lists, and objects that have each name once. -/
inductive Payload.Plain : Payload → Prop
  | null : Plain .null
  | bool (b : Bool) : Plain (.bool b)
  | int {n : Int} : (Nat.toDigits 10 n.natAbs).length ≤ maxDigits → Plain (.int n)
  | text (s : String) : Plain (.text s)
  | list {items : List Payload} : (∀ p ∈ items, Plain p) → Plain (.list items)
  | object {fields : List (String × Payload)} : (fields.map (·.1)).Nodup →
      (∀ f ∈ fields, Plain f.2) → Plain (.object fields)

theorem Payload.isDigit_of_mem_intDigits {n : Int} {c : Char} (h : c ∈ intDigits n) :
    c = '-' ∨ c.isDigit = true := by
  have hdigit (m : Nat) (hm : c ∈ Nat.toDigits 10 m) : c = '-' ∨ c.isDigit = true :=
    .inr (Nat.isDigit_of_mem_toDigits (by decide) (by decide) hm)
  unfold intDigits at h
  split at h
  · rcases List.mem_cons.1 h with rfl | h
    · exact .inl rfl
    · exact hdigit _ h
  · exact hdigit _ h

namespace Json

open Payload

/-! ## Strings -/

theorem hexValue?_hexDigit : ∀ n < 16, hexValue? (hexDigit n) = some n := by decide

theorem hexDigit_ascii : ∀ n < 16, (hexDigit n).toNat < 0x80 := by decide

theorem hexDigits_four (n : Nat) : hexDigits 4 n = [hexDigit (n / 16 / 16 / 16 % 16),
    hexDigit (n / 16 / 16 % 16), hexDigit (n / 16 % 16), hexDigit (n % 16)] := rfl

theorem hex4_hexDigits {n : Nat} (h : n < 0x10000) : Hex4 (hexDigits 4 n) n := by
  have hdigit : ∀ m, hexValue? (hexDigit (m % 16)) = some (m % 16) :=
    fun m => hexValue?_hexDigit _ (Nat.mod_lt m (by decide))
  rw [hexDigits_four]
  exact .mk (hdigit _) (hdigit _) (hdigit _) (hdigit _) (by omega)

/-- What a character is written as. -/
theorem jsonChar_cases (c : Char) :
    (∃ mark, (mark, c) ∈ shortForms ∧ jsonChar c = ['\\', mark]) ∨
    (c ≠ '"' ∧ c ≠ '\\' ∧ 0x20 ≤ c.toNat ∧ c.toNat < 0x7F ∧ jsonChar c = [c]) ∨
    (c.toNat < 0x10000 ∧ jsonChar c = unitEscape c.toNat) ∨
    (0x10000 ≤ c.toNat ∧ jsonChar c = unitEscape (0xD800 + (c.toNat - 0x10000) / 0x400) ++
      unitEscape (0xDC00 + (c.toNat - 0x10000) % 0x400)) := by
  by_cases hshort : ∃ mark, (mark, c) ∈ shortForms ∧ jsonChar c = ['\\', mark]
  · exact .inl hshort
  refine .inr ?_
  have hne : ∀ d mark, (mark, d) ∈ shortForms → jsonChar d = ['\\', mark] → c ≠ d := by
    rintro d mark hmark hd rfl
    exact hshort ⟨mark, hmark, hd⟩
  have hquote := hne '"' '"' (by decide) rfl
  have hback := hne '\\' '\\' (by decide) rfl
  have hfeed := hne '\n' 'n' (by decide) rfl
  have hreturn := hne '\r' 'r' (by decide) rfl
  have htab := hne '\t' 't' (by decide) rfl
  have hbackspace := hne '\x08' 'b' (by decide) rfl
  have hform := hne '\x0C' 'f' (by decide) rfl
  simp only [jsonChar, hquote, hback, hfeed, hreturn, htab, hbackspace, hform, decide_false,
    Bool.or_false, Bool.false_eq_true, if_false]
  split
  next h =>
    rw [Bool.and_eq_true, decide_eq_true_eq, decide_eq_true_eq] at h
    exact .inl ⟨hquote, hback, h.1, h.2, rfl⟩
  next h =>
    split
    next h => exact .inr (.inl ⟨h, rfl⟩)
    next h => exact .inr (.inr ⟨Nat.le_of_not_lt h, rfl⟩)

/-- A character is written in one of its forms. -/
theorem charForm_jsonChar (c : Char) : CharForm (jsonChar c) c := by
  rcases jsonChar_cases c with ⟨mark, hmark, h⟩ | ⟨hquote, hback, hlow, -, h⟩ | ⟨hc, h⟩ | ⟨hc, h⟩
  · rw [h]
    exact .short hmark
  · rw [h]
    exact .plain hquote hback hlow
  · rw [h]
    exact .unit (hex4_hexDigits hc)
  · rw [h]
    have hscalar : c.toNat < 0xD800 ∨ 0xDFFF < c.toNat ∧ c.toNat < 0x110000 := c.valid
    exact .pair (hex4_hexDigits (by omega)) (hex4_hexDigits (by omega)) (by omega) (by omega)
      (by omega) (by omega) (by omega)

theorem chars_flatMap (cs : List Char) : Chars (cs.flatMap jsonChar) cs := by
  induction cs with
  | nil => exact .nil
  | cons c cs ih => exact .cons (charForm_jsonChar c) ih

theorem quoted_jsonString (s : String) : Quoted (jsonString s) s := .mk (chars_flatMap s.toList)

/-! ## Numbers -/

theorem head?_toDigits (n : Nat) : (Nat.toDigits 10 n).head? = some '0' → n = 0 := by
  induction n using Nat.strongRecOn with
  | ind n ih =>
    rcases Nat.lt_or_ge n 10 with h | h
    · rw [Nat.toDigits_of_lt_base h]
      have hdigit : ∀ n < 10, [Nat.digitChar n].head? = some '0' → n = 0 := by decide
      exact hdigit n h
    · rw [Nat.toDigits_of_base_le (by decide) h, List.head?_append_of_ne_nil _ Nat.toDigits_ne_nil]
      intro hhead
      have hzero := ih (n / 10) (by omega) hhead
      omega

theorem whole_toDigits (n : Nat) : Whole (Nat.toDigits 10 n) where
  digits := ⟨Nat.toDigits_ne_nil, fun _ => isAsciiDigit_of_mem_toDigits⟩
  canonical h := by
    rw [head?_toDigits n h]
    rfl

theorem intDigits_eq (n : Int) :
    intDigits n = minus (decide (n < 0)) ++ Nat.toDigits 10 n.natAbs := by
  by_cases hn : n < 0 <;> simp [intDigits, minus, hn]

theorem signed_natAbs (n : Int) : signed (decide (n < 0)) n.natAbs = n := by
  by_cases hn : n < 0
  · rw [signed, decide_eq_true hn, if_pos rfl, Int.ofNat_natAbs_of_nonpos (Int.le_of_lt hn),
      Int.neg_neg]
  · rw [signed, decide_eq_false hn]
    exact Int.natAbs_of_nonneg (Int.not_lt.1 hn)

theorem number_intDigits (n : Int) : Number (intDigits n) (.int n) := by
  have hvalue : digitsNat (Nat.toDigits 10 n.natAbs) = n.natAbs := Nat.ofDigitChars_ten_toDigits
  have h := @Number.whole (decide (n < 0)) _ (whole_toDigits n.natAbs)
  rwa [hvalue, signed_natAbs, ← intDigits_eq] at h

/-! ## Values -/

theorem gap_nil : Gap [] := nofun

theorem gap_space : Gap [' '] := by simp [Gap, isGap]

theorem spaced {gap cs : List Char} {p : Payload} (hgap : Gap gap) (h : Value cs p) :
    Spaced (gap ++ cs) p := by
  simpa using Spaced.mk hgap h gap_nil

theorem name_jsonString {gap : List Char} (hgap : Gap gap) (k : String) :
    Name (gap ++ jsonString k) k := by
  simpa using Name.mk hgap (quoted_jsonString k) gap_nil

theorem items_jsonItems {gap : List Char} (hgap : Gap gap) {p : Payload} {rest : List Payload}
    (h : ∀ q ∈ p :: rest, Value q.jsonChars q) :
    Items (gap ++ jsonItems (p :: rest)) (p :: rest) := by
  induction rest generalizing gap p with
  | nil => exact .one (spaced hgap (h p (List.mem_singleton_self p)))
  | cons q rest ih =>
    obtain ⟨hp, hrest⟩ := List.forall_mem_cons.1 h
    have hmore := Items.more (spaced hgap hp) (ih gap_space hrest)
    rwa [List.append_assoc] at hmore

theorem fields_jsonFields {gap : List Char} (hgap : Gap gap) {f : String × Payload}
    {rest : List (String × Payload)} (h : ∀ g ∈ f :: rest, Value g.2.jsonChars g.2) :
    Fields (gap ++ jsonFields (f :: rest)) (f :: rest) := by
  have hname := name_jsonString hgap f.1
  obtain ⟨hf, hrest⟩ := List.forall_mem_cons.1 h
  induction rest generalizing gap f with
  | nil =>
    have hone := Fields.one hname (spaced gap_space hf)
    rwa [List.append_assoc] at hone
  | cons g rest ih =>
    obtain ⟨hg, hlater⟩ := List.forall_mem_cons.1 hrest
    have hmore := Fields.more hname (spaced gap_space hf)
      (ih gap_space hrest (name_jsonString gap_space g.1) hg hlater)
    rw [List.append_assoc] at hmore
    simpa [jsonFields] using hmore

/-- Fields that have each name once stay as they are. -/
theorem collect_of_nodup {before fields : List (String × Payload)}
    (h : ((before ++ fields).map (·.1)).Nodup) : collect before fields = before ++ fields := by
  induction fields generalizing before with
  | nil => exact (List.append_nil before).symm
  | cons f rest ih =>
    have hnew : f.1 ∉ before.map (·.1) := by
      intro hmem
      rw [List.map_append] at h
      exact (List.nodup_append.1 h).2.2 _ hmem _ (List.mem_cons_self ..) rfl
    rw [List.append_cons] at h ⊢
    rw [← ih h, ← OrderedMap.put_of_notMem f.2 hnew]
    rfl

/-! ## ASCII -/

theorem ascii_of_all {cs : List Char} (h : cs.all (fun c => decide (c.toNat < 0x80)) = true) :
    ∀ c ∈ cs, c.toNat < 0x80 :=
  fun c hc => of_decide_eq_true (List.all_eq_true.1 h c hc)

theorem unitEscape_ascii (n : Nat) : ∀ c ∈ unitEscape n, c.toNat < 0x80 := by
  have hdigit : ∀ m, (hexDigit (m % 16)).toNat < 0x80 :=
    fun m => hexDigit_ascii _ (Nat.mod_lt m (by decide))
  simp [unitEscape, hexDigits_four, hdigit]

theorem jsonChar_ascii (c : Char) : ∀ d ∈ jsonChar c, d.toNat < 0x80 := by
  intro d hd
  rcases jsonChar_cases c with ⟨mark, hmark, h⟩ | ⟨-, -, -, hhigh, h⟩ | ⟨-, h⟩ | ⟨-, h⟩
  · have hshort : ∀ f ∈ shortForms, f.1.toNat < 0x80 := by decide
    rw [h, List.mem_pair] at hd
    rcases hd with rfl | rfl
    · decide
    · exact hshort _ hmark
  · rw [h, List.mem_singleton] at hd
    rw [hd]
    omega
  · exact unitEscape_ascii _ d (h ▸ hd)
  · rw [h, List.mem_append] at hd
    exact hd.elim (unitEscape_ascii _ d) (unitEscape_ascii _ d)

theorem jsonString_ascii (s : String) : ∀ c ∈ jsonString s, c.toNat < 0x80 := by
  intro c hc
  rw [jsonString, List.mem_cons, List.mem_append, List.mem_singleton] at hc
  rcases hc with rfl | hc | rfl
  · decide
  · obtain ⟨d, -, hd⟩ := List.mem_flatMap.1 hc
    exact jsonChar_ascii d c hd
  · decide

theorem intDigits_ascii (n : Int) : ∀ c ∈ intDigits n, c.toNat < 0x80 := by
  intro c hc
  rcases isDigit_of_mem_intDigits hc with rfl | hdigit
  · decide
  · simp only [Char.isDigit, Bool.and_eq_true, decide_eq_true_eq] at hdigit
    have hhigh : c.toNat ≤ '9'.toNat := hdigit.2
    exact Nat.lt_of_le_of_lt hhigh (by decide)

theorem jsonItems_ascii {items : List Payload}
    (h : ∀ p ∈ items, ∀ c ∈ p.jsonChars, c.toNat < 0x80) :
    ∀ c ∈ jsonItems items, c.toNat < 0x80 := by
  induction items with
  | nil => exact nofun
  | cons p rest ih =>
    have hp := h p (List.mem_cons_self ..)
    have hrest := ih fun q hq => h q (List.mem_cons_of_mem _ hq)
    cases rest with
    | nil => exact hp
    | cons q rest =>
      refine List.forall_mem_append.2 ⟨hp, List.forall_mem_cons.2 ⟨by decide, ?_⟩⟩
      exact List.forall_mem_cons.2 ⟨by decide, hrest⟩

theorem jsonFields_ascii {fields : List (String × Payload)}
    (h : ∀ f ∈ fields, ∀ c ∈ f.2.jsonChars, c.toNat < 0x80) :
    ∀ c ∈ jsonFields fields, c.toNat < 0x80 := by
  induction fields with
  | nil => exact nofun
  | cons f rest ih =>
    have hf : ∀ c ∈ jsonString f.1 ++ ':' :: ' ' :: f.2.jsonChars, c.toNat < 0x80 := by
      refine List.forall_mem_append.2 ⟨jsonString_ascii f.1, List.forall_mem_cons.2 ⟨by decide, ?_⟩⟩
      exact List.forall_mem_cons.2 ⟨by decide, h f (List.mem_cons_self ..)⟩
    have hrest := ih fun q hq => h q (List.mem_cons_of_mem _ hq)
    cases rest with
    | nil => exact hf
    | cons g rest =>
      refine List.forall_mem_append.2 ⟨hf, List.forall_mem_cons.2 ⟨by decide, ?_⟩⟩
      exact List.forall_mem_cons.2 ⟨by decide, hrest⟩

end Json

namespace Payload

open Json

theorem Plain.value_jsonChars {p : Payload} (h : p.Plain) : Value p.jsonChars p := by
  induction h with
  | null => exact .null
  | bool b => exact .bool b
  | int _ => exact .number (number_intDigits _)
  | text s => exact .text (quoted_jsonString s)
  | @list items _ ih =>
    cases items with
    | nil => exact .emptyList gap_nil
    | cons p rest => exact .list (items_jsonItems gap_nil ih)
  | @object fields hnodup _ ih =>
    cases fields with
    | nil => exact .emptyObject gap_nil
    | cons f rest =>
      have hfields := Value.object (fields_jsonFields gap_nil ih)
      rwa [collect_of_nodup hnodup] at hfields

theorem Plain.jsonChars_ascii {p : Payload} (h : p.Plain) : ∀ c ∈ p.jsonChars, c.toNat < 0x80 := by
  have hbracket {first last : Char} {cs : List Char} (hfirst : first.toNat < 0x80)
      (hlast : last.toNat < 0x80) (hcs : ∀ c ∈ cs, c.toNat < 0x80) :
      ∀ c ∈ first :: (cs ++ [last]), c.toNat < 0x80 := by
    simpa [or_imp, forall_and] using ⟨hfirst, hcs, hlast⟩
  induction h with
  | null => exact ascii_of_all rfl
  | bool b => cases b <;> exact ascii_of_all rfl
  | int _ => exact intDigits_ascii _
  | text s => exact jsonString_ascii s
  | list _ ih => exact hbracket (by decide) (by decide) (jsonItems_ascii ih)
  | object _ _ ih => exact hbracket (by decide) (by decide) (jsonFields_ascii ih)

theorem Plain.toJson_ascii {p : Payload} (h : p.Plain) : ∀ c ∈ p.toJson.toList, c.toNat < 0x80 := by
  rw [toJson, String.toList_ofList]
  exact h.jsonChars_ascii

theorem Plain.text_toJson {p : Payload} (h : p.Plain) : Json.Text p.toJson p := by
  have hspaced := spaced gap_nil h.value_jsonChars
  rwa [Json.Text, toJson, String.toList_ofList]

end Payload

end ScriptGateway
