import AgentShield.Sdk.JsonLoads

/-!
# The floats and the names of a value

A text of JSON says of a value what its floats are printed as, and of an object one entry for
each name.  Here are the floats that occur in a value, the values whose objects have distinct
names, and how both go with the order of the members.
-/

namespace AgentShield.Sdk.Json

open AgentShield.Lib

/-! ## Values -/

mutual

/-- The floats that occur in a value. -/
def floats : Json → List PyFloat
  | .float x => [x]
  | .arr xs => itemsFloats xs
  | .obj xs => fieldsFloats xs
  | _ => []

/-- The floats in the items of an array. -/
def itemsFloats : List Json → List PyFloat
  | [] => []
  | x :: xs => floats x ++ itemsFloats xs

/-- The floats in the values of the fields. -/
def fieldsFloats : List (String × Json) → List PyFloat
  | [] => []
  | (_, x) :: xs => floats x ++ fieldsFloats xs

end

mutual

/-- No object of the value has two members of one name. -/
def DistinctNames : Json → Prop
  | .arr xs => DistinctNamesItems xs
  | .obj xs => (xs.map Prod.fst).Nodup ∧ DistinctNamesFields xs
  | _ => True

def DistinctNamesItems : List Json → Prop
  | [] => True
  | x :: xs => DistinctNames x ∧ DistinctNamesItems xs

def DistinctNamesFields : List (String × Json) → Prop
  | [] => True
  | (_, x) :: xs => DistinctNames x ∧ DistinctNamesFields xs

end

mutual

/-- The value with other values for its floats. -/
def mapFloats (g : PyFloat → Json) : Json → Json
  | .float x => g x
  | .arr xs => .arr (mapFloatsItems g xs)
  | .obj xs => .obj (mapFloatsFields g xs)
  | j => j

def mapFloatsItems (g : PyFloat → Json) : List Json → List Json
  | [] => []
  | x :: xs => mapFloats g x :: mapFloatsItems g xs

def mapFloatsFields (g : PyFloat → Json) : List (String × Json) → List (String × Json)
  | [] => []
  | (k, x) :: xs => (k, mapFloats g x) :: mapFloatsFields g xs

end

theorem map_fst_mapFloatsFields (g : PyFloat → Json) (xs : List (String × Json)) :
    (mapFloatsFields g xs).map Prod.fst = xs.map Prod.fst := by
  induction xs with
  | nil => rfl
  | cons x xs ih =>
      obtain ⟨k, v⟩ := x
      simp [mapFloatsFields, ih]

theorem mapFloatsFields_eq (g : PyFloat → Json) (xs : List (String × Json)) :
    mapFloatsFields g xs = xs.map fun p => (p.1, mapFloats g p.2) := by
  induction xs with
  | nil => rfl
  | cons x xs ih =>
      obtain ⟨k, v⟩ := x
      rw [mapFloatsFields, ih, List.map_cons]

/-- Ordering the values of a list of fields leaves the names in their places. -/
theorem orderedFields_eq (xs : List (String × Json)) :
    orderedFields xs = xs.map fun p => (p.1, p.2.ordered) := by
  induction xs with
  | nil => rfl
  | cons x xs ih =>
      obtain ⟨k, v⟩ := x
      rw [orderedFields, ih, List.map_cons]

/-- A float of the fields is a float of one of their values. -/
theorem mem_fieldsFloats {x : PyFloat} {xs : List (String × Json)} :
    x ∈ fieldsFloats xs ↔ ∃ f ∈ xs, x ∈ f.2.floats := by
  induction xs with
  | nil => simp [fieldsFloats]
  | cons f xs ih =>
      obtain ⟨k, v⟩ := f
      simp [fieldsFloats, ih]

/-- The names are distinct throughout a list of fields when they are in each of the values. -/
theorem distinctNamesFields_iff {xs : List (String × Json)} :
    DistinctNamesFields xs ↔ ∀ f ∈ xs, f.2.DistinctNames := by
  induction xs with
  | nil => simp [DistinctNamesFields]
  | cons f xs ih =>
      obtain ⟨k, v⟩ := f
      simp [DistinctNamesFields, ih]

mutual

/-- Ordering the members moves floats about only. -/
theorem floats_ordered : ∀ (j : Json) (x : PyFloat), x ∈ j.ordered.floats → x ∈ j.floats
  | .null, _, h => h
  | .bool _, _, h => h
  | .int _, _, h => h
  | .float _, _, h => h
  | .str _, _, h => h
  | .arr xs, x, h => floats_orderedItems xs x h
  | .obj xs, x, h => by
      obtain ⟨f, hf, hx⟩ := mem_fieldsFloats.1 h
      exact floats_orderedFields xs x
        (mem_fieldsFloats.2 ⟨f, (List.mem_insertionSort _).1 hf, hx⟩)

theorem floats_orderedItems : ∀ (xs : List Json) (x : PyFloat),
    x ∈ itemsFloats (orderedItems xs) → x ∈ itemsFloats xs
  | [], _, h => h
  | y :: ys, x, h => by
      rcases List.mem_append.1 h with h | h
      · exact List.mem_append_left _ (floats_ordered y x h)
      · exact List.mem_append_right _ (floats_orderedItems ys x h)

theorem floats_orderedFields : ∀ (xs : List (String × Json)) (x : PyFloat),
    x ∈ fieldsFloats (orderedFields xs) → x ∈ fieldsFloats xs
  | [], _, h => h
  | (_, y) :: ys, x, h => by
      rcases List.mem_append.1 h with h | h
      · exact List.mem_append_left _ (floats_ordered y x h)
      · exact List.mem_append_right _ (floats_orderedFields ys x h)

end

mutual

/-- Ordering a value keeps the names of its objects distinct. -/
theorem DistinctNames.ordered : ∀ {j : Json}, j.DistinctNames → j.ordered.DistinctNames
  | .null, _ => trivial
  | .bool _, _ => trivial
  | .int _, _ => trivial
  | .float _, _ => trivial
  | .str _, _ => trivial
  | .arr xs, h => distinctNames_orderedItems xs h
  | .obj xs, h => by
      have hFields := distinctNamesFields_iff.1 (distinctNames_orderedFields xs h.2)
      have hPerm := List.perm_insertionSort (fun p q : String × Json => p.1 ≤ q.1)
        (orderedFields xs)
      have hNames : ((orderedFields xs).map Prod.fst).Nodup := by
        rw [orderedFields_eq, List.map_map]
        exact h.1
      exact ⟨(hPerm.map Prod.fst).nodup_iff.2 hNames,
        distinctNamesFields_iff.2 fun f hf => hFields f (hPerm.mem_iff.1 hf)⟩

theorem distinctNames_orderedItems : ∀ xs : List Json, DistinctNamesItems xs →
    DistinctNamesItems (orderedItems xs)
  | [], _ => trivial
  | _ :: xs, h => ⟨DistinctNames.ordered h.1, distinctNames_orderedItems xs h.2⟩

theorem distinctNames_orderedFields : ∀ xs : List (String × Json), DistinctNamesFields xs →
    DistinctNamesFields (orderedFields xs)
  | [], _ => trivial
  | (_, _) :: xs, h => ⟨DistinctNames.ordered h.1, distinctNames_orderedFields xs h.2⟩

end

mutual

/-- The order of the members does not depend on the floats. -/
theorem ordered_mapFloats {g : PyFloat → Json} (hg : ∀ x, (g x).ordered = g x) :
    ∀ j : Json, (mapFloats g j).ordered = mapFloats g j.ordered
  | .null => rfl
  | .bool _ => rfl
  | .int _ => rfl
  | .float x => hg x
  | .str _ => rfl
  | .arr xs => congrArg Json.arr (orderedItems_mapFloats hg xs)
  | .obj xs => by
      simp only [mapFloats, Json.ordered]
      rw [orderedFields_mapFloats hg xs, mapFloatsFields_eq, mapFloatsFields_eq,
        map_sortByName (· ≤ ·) (mapFloats g)]

/-- Ordering and rewriting the floats do not get in each other's way, where a rewritten float
has nothing to order. -/
theorem orderedItems_mapFloats {g : PyFloat → Json} (hg : ∀ x, (g x).ordered = g x) :
    ∀ xs : List Json, orderedItems (mapFloatsItems g xs) = mapFloatsItems g (orderedItems xs)
  | [] => rfl
  | x :: xs => congrArg₂ List.cons (ordered_mapFloats hg x) (orderedItems_mapFloats hg xs)

theorem orderedFields_mapFloats {g : PyFloat → Json} (hg : ∀ x, (g x).ordered = g x) :
    ∀ xs : List (String × Json),
      orderedFields (mapFloatsFields g xs) = mapFloatsFields g (orderedFields xs)
  | [] => rfl
  | (k, x) :: xs =>
      congrArg₂ List.cons (congrArg (Prod.mk k) (ordered_mapFloats hg x))
        (orderedFields_mapFloats hg xs)

end

mutual

/-- What is in order is left as it is. -/
theorem ordered_ordered : ∀ j : Json, j.ordered.ordered = j.ordered
  | .null => rfl
  | .bool _ => rfl
  | .int _ => rfl
  | .float _ => rfl
  | .str _ => rfl
  | .arr xs => congrArg Json.arr (orderedItems_orderedItems xs)
  | .obj xs => by
      have hTotal : Std.Total fun p q : String × Json => p.1 ≤ q.1 :=
        ⟨fun p q => String.le_total p.1 q.1⟩
      have hTrans : IsTrans (String × Json) fun p q => p.1 ≤ q.1 :=
        ⟨fun _ _ _ => String.le_trans⟩
      have hAgain := orderedFields_orderedFields xs
      rw [orderedFields_eq (orderedFields xs)] at hAgain
      have hSorted := List.pairwise_insertionSort (fun p q : String × Json => p.1 ≤ q.1)
        (orderedFields xs)
      simp only [Json.ordered]
      rw [orderedFields_eq (List.insertionSort _ _), map_sortByName (· ≤ ·) Json.ordered, hAgain,
        hSorted.insertionSort_eq]

theorem orderedItems_orderedItems : ∀ xs : List Json,
    orderedItems (orderedItems xs) = orderedItems xs
  | [] => rfl
  | x :: xs => congrArg₂ List.cons (ordered_ordered x) (orderedItems_orderedItems xs)

theorem orderedFields_orderedFields : ∀ xs : List (String × Json),
    orderedFields (orderedFields xs) = orderedFields xs
  | [] => rfl
  | (k, x) :: xs =>
      congrArg₂ List.cons (congrArg (Prod.mk k) (ordered_ordered x))
        (orderedFields_orderedFields xs)

end

/-- Members with distinct names are the entries of their object. -/
theorem ofPairs_of_nodup {xs : List (String × Json)} (h : (xs.map Prod.fst).Nodup) :
    ofPairs xs = .obj xs := by
  have hFold : ∀ (ys zs : List (String × Json)), ((ys ++ zs).map Prod.fst).Nodup →
      zs.foldl (fun d p => Dict.set d p.1 p.2) ys = ys ++ zs := by
    intro ys zs hNodup
    induction zs generalizing ys with
    | nil => exact (List.append_nil ys).symm
    | cons z zs ih =>
        have hFresh : z.1 ∉ ys.map Prod.fst := by
          rw [List.map_append, List.map_cons, List.nodup_append] at hNodup
          intro hMem
          exact hNodup.2.2 _ hMem _ List.mem_cons_self rfl
        rw [List.foldl_cons, Dict.set_of_notMem hFresh, ih]
        · rw [List.append_assoc]
          rfl
        · rw [List.append_assoc]
          exact hNodup
  unfold ofPairs
  rw [hFold [] xs h]
  rfl

end AgentShield.Sdk.Json
