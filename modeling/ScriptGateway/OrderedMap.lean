/-!
# Maps that remember their order

Finite maps whose keys stand in the order in which they were first inserted. Writing a key again
replaces its value and keeps its place. Main statements: `get?_insert` and `keys_insert`.
-/

set_option autoImplicit false

namespace ScriptGateway

structure OrderedMap (κ ν : Type) where
  entries : List (κ × ν)
  deriving Repr

namespace OrderedMap

variable {κ ν : Type} [DecidableEq κ]

def empty : OrderedMap κ ν := ⟨[]⟩

def find? (k : κ) : List (κ × ν) → Option ν
  | [] => none
  | e :: r => if e.1 = k then some e.2 else find? k r

def put (k : κ) (v : ν) : List (κ × ν) → List (κ × ν)
  | [] => [(k, v)]
  | e :: r => if e.1 = k then (e.1, v) :: r else e :: put k v r

def get? (m : OrderedMap κ ν) (k : κ) : Option ν := find? k m.entries

def insert (m : OrderedMap κ ν) (k : κ) (v : ν) : OrderedMap κ ν := ⟨put k v m.entries⟩

def contains (m : OrderedMap κ ν) (k : κ) : Bool := (m.get? k).isSome

def keys (m : OrderedMap κ ν) : List κ := m.entries.map (·.1)

def values (m : OrderedMap κ ν) : List ν := m.entries.map (·.2)

/-- Inserts the pairs one after the other, so the last value of a key counts. -/
def ofList (kvs : List (κ × ν)) : OrderedMap κ ν :=
  kvs.foldl (fun m e => m.insert e.1 e.2) empty

@[simp] theorem get?_empty (k : κ) : (empty : OrderedMap κ ν).get? k = none := rfl

theorem find?_put (k k' : κ) (v : ν) (es : List (κ × ν)) :
    find? k' (put k v es) = if k = k' then some v else find? k' es := by
  induction es with
  | nil => rfl
  | cons e r ih =>
    by_cases h : e.1 = k
    · subst h; by_cases h' : e.1 = k' <;> simp [put, find?, h']
    · by_cases h' : e.1 = k'
      · subst h'; simp [put, find?, h, Ne.symm h]
      · simp [put, find?, h, h', ih]

theorem get?_insert (m : OrderedMap κ ν) (k k' : κ) (v : ν) :
    (m.insert k v).get? k' = if k = k' then some v else m.get? k' :=
  find?_put k k' v m.entries

theorem find?_isSome_iff (k : κ) (es : List (κ × ν)) :
    (find? k es).isSome = true ↔ k ∈ es.map (·.1) := by
  induction es with
  | nil => simp [find?]
  | cons e r ih =>
    by_cases h : e.1 = k
    · simp [find?, h]
    · simp only [find?, h, ite_false, ih, List.map_cons, List.mem_cons, Ne.symm h, false_or]

theorem contains_iff (m : OrderedMap κ ν) (k : κ) : m.contains k = true ↔ k ∈ m.keys :=
  find?_isSome_iff k m.entries

theorem map_fst_put (k : κ) (v : ν) (es : List (κ × ν)) :
    (put k v es).map (·.1) =
      if k ∈ es.map (·.1) then es.map (·.1) else es.map (·.1) ++ [k] := by
  induction es with
  | nil => rfl
  | cons e r ih =>
    by_cases h : e.1 = k
    · simp [put, h]
    · by_cases hk : k ∈ r.map (·.1)
      · simp only [put, h, ite_false, List.map_cons, ih, hk, ite_true, List.mem_cons, or_true]
      · have : k ≠ e.1 := Ne.symm h
        simp only [put, h, ite_false, List.map_cons, ih, hk, List.mem_cons, this, or_self,
          List.cons_append]

/-- A new key is added at the end and an old one keeps its place. -/
theorem keys_insert (m : OrderedMap κ ν) (k : κ) (v : ν) :
    (m.insert k v).keys = if k ∈ m.keys then m.keys else m.keys ++ [k] :=
  map_fst_put k v m.entries

end OrderedMap

end ScriptGateway
