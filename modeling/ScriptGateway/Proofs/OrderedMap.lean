import Mathlib.Data.List.Induction
import Mathlib.Data.List.Nodup
import ScriptGateway.OrderedMap

/-!
# Entries of ordered maps

A map that was filled by insertions holds every key once (`nodup_keys_insert`, `nodup_keys_ofList`).
In such a map the entries are what can be looked up (`mem_values_iff`), and its values may be
written anew under the same keys (`get?_ofList_values`).

Its keys stand in the order in which they first came (`keys_foldl`, `keys_ofList`), while of several
values of a key the last one counts (`get?_ofList_eq_getLast?`).
-/

set_option autoImplicit false

namespace ScriptGateway

/-! ## Rows without their repeats -/

section

variable {α : Type} [DecidableEq α]

/-- A row without its repeats, one element longer. -/
theorem eraseDups_concat (l : List α) (a : α) :
    (l ++ [a]).eraseDups = if a ∈ l then l.eraseDups else l.eraseDups ++ [a] := by
  rw [List.eraseDups_append]
  by_cases ha : a ∈ l <;> simp [List.cons_removeAll, ha, List.eraseDups_cons]

theorem nodup_eraseDups (l : List α) : l.eraseDups.Nodup := by
  induction l using List.reverseRecOn with
  | nil => exact List.nodup_nil
  | append_singleton l a ih =>
    rw [eraseDups_concat]
    split
    · exact ih
    · rename_i ha
      rw [← List.concat_eq_append]
      exact ih.concat fun hmem => ha (List.mem_eraseDups.1 hmem)

theorem filter_eraseDups (p : α → Bool) (l : List α) :
    l.eraseDups.filter p = (l.filter p).eraseDups := by
  induction l using List.reverseRecOn with
  | nil => rfl
  | append_singleton l a ih =>
    rw [eraseDups_concat, List.filter_append]
    by_cases hp : p a = true
    · have hkept : [a].filter p = [a] := by simp [hp]
      rw [hkept, eraseDups_concat, ← ih]
      by_cases ha : a ∈ l <;> simp [ha, hp]
    · have hdropped : [a].filter p = [] := by simp [hp]
      rw [hdropped, List.append_nil, ← ih]
      by_cases ha : a ∈ l <;> simp [ha, hp]

/-- Adding what is not there yet, one after the other. -/
theorem foldl_addNew (seen more : List α) :
    more.foldl (fun acc a => if a ∈ acc then acc else acc ++ [a]) seen =
      seen ++ (more.removeAll seen).eraseDups := by
  induction more generalizing seen with
  | nil => simp [List.removeAll]
  | cons a more ih =>
    rw [List.foldl_cons, ih]
    by_cases ha : a ∈ seen
    · simp [List.cons_removeAll, ha]
    · have hlater : more.removeAll (seen ++ [a]) =
          (more.removeAll seen).filter fun b => !b == a := by
        simp [List.removeAll, List.filter_filter, Bool.and_comm, beq_eq_decide]
      simp [List.cons_removeAll, ha, hlater, List.eraseDups_cons]

end

/-! ## Looking up entries -/

namespace OrderedMap

variable {κ ν α : Type} [DecidableEq κ] {m : OrderedMap κ ν} {k k' : κ} {v : ν}

theorem mem_of_find? {es : List (κ × ν)} (h : find? k es = some v) : (k, v) ∈ es := by
  induction es with
  | nil => cases h
  | cons e r ih =>
    by_cases he : e.1 = k
    · simp only [find?, he, ite_true, Option.some.injEq] at h
      obtain rfl : e = (k, v) := Prod.ext he h
      exact List.mem_cons_self
    · simp only [find?, he, ite_false] at h
      exact List.mem_cons_of_mem _ (ih h)

theorem find?_of_mem {es : List (κ × ν)} (hes : (es.map (·.1)).Nodup) (h : (k, v) ∈ es) :
    find? k es = some v := by
  induction es with
  | nil => cases h
  | cons e r ih =>
    obtain ⟨hnot, hr⟩ := List.nodup_cons.1 hes
    rcases List.mem_cons.1 h with rfl | hmem
    · simp [find?]
    · have he : e.1 ≠ k := by
        rintro rfl
        exact hnot (List.mem_map.2 ⟨_, hmem, rfl⟩)
      simp only [find?, he, ite_false, ih hr hmem]

theorem mem_values_of_get? (h : m.get? k = some v) : v ∈ m.values :=
  List.mem_map.2 ⟨_, mem_of_find? h, rfl⟩

theorem mem_values_iff (hm : m.keys.Nodup) : v ∈ m.values ↔ ∃ k, m.get? k = some v := by
  constructor
  · intro h
    obtain ⟨⟨k, v'⟩, he, rfl⟩ := List.mem_map.1 h
    exact ⟨k, find?_of_mem hm he⟩
  · rintro ⟨k, hk⟩
    exact mem_values_of_get? hk

/-- The values are what the keys lead to, in their order. -/
theorem values_eq_filterMap (hm : m.keys.Nodup) : m.values = m.keys.filterMap m.get? := by
  rw [keys, List.filterMap_map, values, ← List.filterMap_eq_map]
  exact List.filterMap_congr fun e he => (find?_of_mem hm he).symm

/-! ## Filling a map -/

/-- A new key goes to the end. -/
theorem put_of_notMem {es : List (κ × ν)} (v : ν) (h : k ∉ es.map (·.1)) :
    put k v es = es ++ [(k, v)] := by
  induction es with
  | nil => rfl
  | cons e es ih =>
    rw [List.map_cons, List.mem_cons, not_or] at h
    rw [put, if_neg (Ne.symm h.1), ih h.2]
    rfl

theorem nodup_keys_insert (hm : m.keys.Nodup) (k : κ) (v : ν) : (m.insert k v).keys.Nodup := by
  rw [keys_insert]
  split
  · exact hm
  · rename_i hk
    rw [← List.concat_eq_append]
    exact hm.concat hk

/-- Steps that each write one key leave the keys in the order in which they were first written. -/
theorem keys_foldl {step : OrderedMap κ ν → α → OrderedMap κ ν} {f : α → κ}
    (hstep : ∀ m a, (step m a).keys = if f a ∈ m.keys then m.keys else m.keys ++ [f a])
    (l : List α) : (l.foldl step empty).keys = (l.map f).eraseDups := by
  induction l using List.reverseRecOn with
  | nil => rfl
  | append_singleton l a ih =>
    rw [List.foldl_append, List.foldl_cons, List.foldl_nil, hstep, ih, List.map_append,
      List.map_singleton, eraseDups_concat]
    simp only [List.mem_eraseDups]

theorem keys_ofList (kvs : List (κ × ν)) : (ofList kvs).keys = (kvs.map (·.1)).eraseDups :=
  keys_foldl (fun m e => keys_insert m e.1 e.2) kvs

theorem nodup_keys_ofList (kvs : List (κ × ν)) : (ofList kvs).keys.Nodup := by
  rw [keys_ofList]
  exact nodup_eraseDups _

/-- Of the pairs with a key, the last one is what is looked up. -/
theorem get?_ofList_eq_getLast? (kvs : List (κ × ν)) (k : κ) :
    (ofList kvs).get? k = (kvs.filter (·.1 = k)).getLast?.map (·.2) := by
  unfold ofList
  induction kvs using List.reverseRecOn with
  | nil => rfl
  | append_singleton kvs e ih =>
    rw [List.foldl_append, List.foldl_cons, List.foldl_nil, get?_insert, ih, List.filter_append]
    by_cases hk : e.1 = k <;> simp [hk]

theorem mem_of_get?_ofList {kvs : List (κ × ν)} (h : (ofList kvs).get? k = some v) :
    (k, v) ∈ kvs := by
  rw [get?_ofList_eq_getLast?, Option.map_eq_some_iff] at h
  obtain ⟨e, he, rfl⟩ := h
  obtain ⟨hmem, hk⟩ := List.mem_filter.1 (List.mem_of_getLast? he)
  obtain rfl : e.1 = k := of_decide_eq_true hk
  exact hmem

/-! ## Rewriting the values of a map -/

theorem find?_map {μ : Type} (f : ν → μ) (es : List (κ × ν)) (k : κ) :
    find? k (es.map fun e => (e.1, f e.2)) = (find? k es).map f := by
  induction es with
  | nil => rfl
  | cons e r ih =>
    by_cases he : e.1 = k
    · simp [find?, he]
    · simp only [List.map_cons, find?, he, ite_false, ih]

theorem get?_foldl_insert {kvs : List (κ × ν)} (hkvs : (kvs.map (·.1)).Nodup)
    (m : OrderedMap κ ν) (k : κ) :
    (kvs.foldl (fun m e => m.insert e.1 e.2) m).get? k = (find? k kvs).or (m.get? k) := by
  induction kvs generalizing m with
  | nil => rfl
  | cons e r ih =>
    obtain ⟨hnot, hr⟩ := List.nodup_cons.1 hkvs
    rw [List.foldl_cons, ih hr, get?_insert]
    by_cases he : e.1 = k
    · subst he
      -- the key is not written again
      have hrest : find? e.1 r = none :=
        Option.not_isSome_iff_eq_none.1 fun hk => hnot ((find?_isSome_iff e.1 r).1 hk)
      simp [find?, hrest]
    · simp [find?, he]

/-- In pairs without a repeated key, the one that has a key is what is looked up. -/
theorem get?_ofList {kvs : List (κ × ν)} (hkvs : (kvs.map (·.1)).Nodup) (k : κ) :
    (ofList kvs).get? k = find? k kvs := by
  rw [ofList, get?_foldl_insert hkvs, get?_empty, Option.or_none]

/-- A map whose keys are read off its values, filled anew with what `f` makes of them. -/
theorem get?_ofList_values {μ : Type} (hm : m.keys.Nodup) {key : ν → κ}
    (hkey : ∀ k v, m.get? k = some v → key v = k) (f : ν → μ) (k : κ) :
    (ofList (m.values.map fun v => (key v, f v))).get? k = (m.get? k).map f := by
  have hentries : m.values.map (fun v => (key v, f v)) = m.entries.map fun e => (e.1, f e.2) := by
    rw [values, List.map_map]
    refine List.map_congr_left fun e he => ?_
    simp only [Function.comp, hkey e.1 e.2 (find?_of_mem hm he)]
  have hnodup : ((m.entries.map fun e => (e.1, f e.2)).map (·.1)).Nodup := by
    rw [List.map_map]
    exact hm
  rw [hentries, get?_ofList hnodup, find?_map]
  rfl

end OrderedMap

end ScriptGateway
