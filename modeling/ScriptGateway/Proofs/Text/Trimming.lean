import ScriptGateway.Text.Blank
import Mathlib.Data.List.DropRight
import Mathlib.Data.List.Infix

/-!
# Trimmed texts

Trimming takes away what stands around a text that begins and ends with something else
(`trimWhile_append`), and leaves a text that neither begins nor ends with anything to trim
(`trimWhile_eq_self`).
-/

set_option autoImplicit false

namespace ScriptGateway.Text

variable {p : Char → Bool} {cs : List Char} {c : Char}

/-! ## What is left -/

theorem dropEndWhile_begins (p : Char → Bool) (cs : List Char) : dropEndWhile p cs <+: cs := by
  have hsuffix := List.reverse_prefix.2 (List.dropWhile_suffix p (l := cs.reverse))
  rwa [List.reverse_reverse] at hsuffix

theorem trimWhile_within (p : Char → Bool) (cs : List Char) : trimWhile p cs <:+: cs :=
  (dropEndWhile_begins p _).isInfix.trans (List.dropWhile_suffix p).isInfix

theorem mem_of_mem_trimWhile (h : c ∈ trimWhile p cs) : c ∈ cs :=
  (trimWhile_within p cs).subset h

theorem eq_false_of_head?_dropWhile (h : (cs.dropWhile p).head? = some c) : p c = false := by
  have hhead := List.head?_dropWhile_not p cs
  rw [h] at hhead
  simpa using hhead

theorem eq_false_of_getLast?_dropEndWhile (h : (dropEndWhile p cs).getLast? = some c) :
    p c = false := by
  rw [dropEndWhile, List.getLast?_reverse] at h
  exact eq_false_of_head?_dropWhile h

theorem eq_false_of_getLast?_trimWhile (h : (trimWhile p cs).getLast? = some c) : p c = false :=
  eq_false_of_getLast?_dropEndWhile h

theorem eq_false_of_head?_trimWhile (h : (trimWhile p cs).head? = some c) : p c = false := by
  obtain ⟨back, hback⟩ := dropEndWhile_begins p (cs.dropWhile p)
  have hhead : (cs.dropWhile p).head? = some c := by
    rw [← hback, List.head?_append]
    exact Option.or_eq_some_iff.2 (.inl h)
  exact eq_false_of_head?_dropWhile hhead

/-! ## What is taken away -/

theorem dropWhile_eq_self (h : ∀ c, cs.head? = some c → p c = false) : cs.dropWhile p = cs := by
  cases cs with
  | nil => rfl
  | cons c cs => rw [List.dropWhile_cons, h c rfl]; rfl

/-- A run of what `p` holds of ends where something else begins. -/
theorem span_append {rest : List Char} (hcs : ∀ c ∈ cs, p c = true)
    (hrest : ∀ c, rest.head? = some c → p c = false) :
    (cs ++ rest).takeWhile p = cs ∧ (cs ++ rest).dropWhile p = rest := by
  have hdrop : rest.dropWhile p = rest := dropWhile_eq_self hrest
  have htake : rest.takeWhile p = [] := by
    have hboth := List.takeWhile_append_dropWhile (p := p) (l := rest)
    rw [hdrop] at hboth
    exact List.append_left_eq_self.1 hboth
  rw [List.takeWhile_append_of_pos hcs, List.dropWhile_append_of_pos hcs, htake, hdrop]
  exact ⟨List.append_nil cs, rfl⟩

theorem dropEndWhile_eq_self (h : ∀ c, cs.getLast? = some c → p c = false) :
    dropEndWhile p cs = cs := by
  have hend : cs.reverse.dropWhile p = cs.reverse :=
    dropWhile_eq_self fun c hc => h c (by rwa [List.head?_reverse] at hc)
  rw [dropEndWhile, hend, List.reverse_reverse]

/-- A text that neither begins nor ends with anything to trim. -/
theorem trimWhile_eq_self (hfirst : ∀ c, cs.head? = some c → p c = false)
    (hlast : ∀ c, cs.getLast? = some c → p c = false) : trimWhile p cs = cs := by
  rw [trimWhile, dropWhile_eq_self hfirst, dropEndWhile_eq_self hlast]

theorem dropEndWhile_eq_nil (h : ∀ c ∈ cs, p c = true) : dropEndWhile p cs = [] :=
  List.rdropWhile_eq_nil_iff.2 h

theorem dropEndWhile_append {back : List Char} (h : ∀ c ∈ back, p c = true) (cs : List Char) :
    dropEndWhile p (cs ++ back) = dropEndWhile p cs := by
  have hback : ∀ c ∈ back.reverse, p c = true := fun c hc => h c (List.mem_reverse.1 hc)
  rw [dropEndWhile, List.reverse_append, List.dropWhile_append_of_pos hback, dropEndWhile]

theorem exists_append_dropEndWhile (p : Char → Bool) (cs : List Char) :
    ∃ back, cs = dropEndWhile p cs ++ back ∧ ∀ c ∈ back, p c = true :=
  ⟨cs.rtakeWhile p, List.rdropWhile_append_rtakeWhile.symm,
    fun _ hc => List.mem_rtakeWhile_imp hc⟩

theorem dropWhile_append_cons (hc : p c = false) (cs rest : List Char) :
    (cs ++ c :: rest).dropWhile p = cs.dropWhile p ++ c :: rest := by
  induction cs with
  | nil => simp [hc]
  | cons d cs ih =>
    cases hd : p d with
    | true => simp [hd, ih]
    | false => simp [hd]

/-- Trimming takes away from what stands around a text that begins and ends with something else. -/
theorem trimWhile_append {body : List Char} {d : Char} {front rest : List Char}
    (hfirst : body = c :: rest) (hc : p c = false) (hlast : body = front ++ [d]) (hd : p d = false)
    (lead trail : List Char) :
    trimWhile p (lead ++ body ++ trail) = lead.dropWhile p ++ body ++ dropEndWhile p trail := by
  have hdrop : (lead ++ body ++ trail).dropWhile p = lead.dropWhile p ++ body ++ trail := by
    rw [hfirst, List.append_assoc, List.cons_append, dropWhile_append_cons hc]
    simp
  have hrev : (lead.dropWhile p ++ body ++ trail).reverse =
      trail.reverse ++ d :: (lead.dropWhile p ++ front).reverse := by
    simp [hlast]
  rw [trimWhile, hdrop, dropEndWhile, hrev, dropWhile_append_cons hd, dropEndWhile, hlast]
  simp

end ScriptGateway.Text
