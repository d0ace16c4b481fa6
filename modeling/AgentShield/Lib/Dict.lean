import Mathlib.Data.List.Basic
import Mathlib.Data.List.Induction

/-!
# Insertion-ordered dictionaries

A dictionary is the list of its entries in the order in which their keys were
first stored.  Storing a present key replaces its value in place, as an ordered
hash map does.
-/

namespace AgentShield.Lib

/-- The entries of a dictionary in insertion order. -/
abbrev Dict (κ ν : Type) := List (κ × ν)

namespace Dict

variable {κ ν : Type} [DecidableEq κ]

/-- The value under a key: that of the first entry with it. -/
def get? : Dict κ ν → κ → Option ν
  | [], _ => none
  | (k', v) :: d, k => if k' = k then some v else get? d k

/-- Stores `v` under `k`, in place when `k` is present. -/
def set : Dict κ ν → κ → ν → Dict κ ν
  | [], k, v => [(k, v)]
  | (k', v') :: d, k, v => if k' = k then (k, v) :: d else (k', v') :: set d k v

@[simp] theorem get?_nil (k : κ) : get? ([] : Dict κ ν) k = none := rfl

@[simp] theorem get?_set_self (d : Dict κ ν) (k : κ) (v : ν) :
    get? (set d k v) k = some v := by
  induction d with
  | nil => simp [set, get?]
  | cons e d ih =>
      obtain ⟨k', v'⟩ := e
      by_cases hk : k' = k
      · simp [set, get?, hk]
      · simp [set, get?, hk, ih]

/-- Setting one key leaves what every other key reads. -/
theorem get?_set_ne (d : Dict κ ν) {k k' : κ} (v : ν) (h : k ≠ k') :
    get? (set d k v) k' = get? d k' := by
  induction d with
  | nil => simp [set, get?, h]
  | cons e d ih =>
      obtain ⟨k₀, v₀⟩ := e
      by_cases hk : k₀ = k
      · subst hk
        simp [set, get?, h]
      · simp only [set, if_neg hk, get?, ih]

/-- What a key reads after a set, whether it is the key that was set or not. -/
theorem get?_set (d : Dict κ ν) (k k' : κ) (v : ν) :
    get? (set d k v) k' = if k = k' then some v else get? d k' := by
  by_cases h : k = k'
  · subst h
    simp
  · simp [h, get?_set_ne d v h]

/-- Setting a key to the value it has changes nothing, the place of its entry included. -/
theorem set_of_get? {d : Dict κ ν} {k : κ} {v : ν} (h : get? d k = some v) : set d k v = d := by
  induction d with
  | nil => cases h
  | cons e d ih =>
      obtain ⟨k', v'⟩ := e
      by_cases hk : k' = k
      · simp only [get?, if_pos hk, Option.some.injEq] at h
        simp [set, hk, h]
      · simp only [get?, if_neg hk] at h
        simp [set, hk, ih h]

theorem mem_of_get? {d : Dict κ ν} {k : κ} {v : ν} (h : get? d k = some v) : (k, v) ∈ d := by
  induction d with
  | nil => cases h
  | cons e d ih =>
      obtain ⟨k', v'⟩ := e
      simp only [get?] at h
      split at h
      · rename_i hk
        obtain rfl := Option.some.inj h
        rw [hk]
        exact List.mem_cons_self
      · exact List.mem_cons_of_mem _ (ih h)

/-- A key that is stored has a value. -/
theorem exists_get?_of_mem_keys {d : Dict κ ν} {k : κ} (h : k ∈ d.map Prod.fst) :
    ∃ v, get? d k = some v := by
  induction d with
  | nil => cases h
  | cons e d ih =>
      obtain ⟨k', v'⟩ := e
      by_cases hk : k' = k
      · exact ⟨v', if_pos hk⟩
      · have hRest : k ∈ d.map Prod.fst := by
          rcases List.mem_cons.1 h with hSame | hRest
          · exact absurd hSame.symm hk
          · exact hRest
        obtain ⟨v, hv⟩ := ih hRest
        exact ⟨v, (if_neg hk).trans hv⟩

/-- A removed key reads nothing. -/
theorem get?_filter_self (d : Dict κ ν) (k : κ) :
    get? (d.filter fun e => e.1 ≠ k) k = none := by
  induction d with
  | nil => rfl
  | cons e d ih =>
      obtain ⟨k', v⟩ := e
      by_cases hk : k' = k
      · simpa [hk] using ih
      · simpa [hk, get?] using ih

/-- Removing a key leaves what every other key reads. -/
theorem get?_filter_ne (d : Dict κ ν) {k k' : κ} (h : k ≠ k') :
    get? (d.filter fun e => e.1 ≠ k) k' = get? d k' := by
  induction d with
  | nil => rfl
  | cons e d ih =>
      obtain ⟨k₀, v⟩ := e
      by_cases hk : k₀ = k
      · subst hk
        simpa [get?, h] using ih
      · simp only [ne_eq, hk, not_false_eq_true, decide_true, List.filter_cons_of_pos, get?]
        rw [← ih]

/-- Which keys are stored does not depend on their values. -/
theorem all_mem_set (d : Dict κ ν) (names : List κ) (k : κ) (v w : ν) :
    ((set d k v).all fun e => e.1 ∈ names) = (set d k w).all fun e => e.1 ∈ names := by
  induction d with
  | nil => rfl
  | cons e d ih =>
      obtain ⟨k', v'⟩ := e
      by_cases hk : k' = k
      · simp [set, hk]
      · simp only [set, if_neg hk, List.all_cons, ih]

theorem all_mem_filter {d : Dict κ ν} {names : List κ} {k : κ} {v : ν}
    (h : ((set d k v).all fun e => e.1 ∈ names) = true) :
    ((d.filter fun e => e.1 ≠ k).all fun e => e.1 ∈ names) = true := by
  induction d with
  | nil => rfl
  | cons e d ih =>
      obtain ⟨k', v'⟩ := e
      by_cases hk : k' = k
      · simp only [set, if_pos hk, List.all_cons, Bool.and_eq_true, List.all_eq_true] at h
        simp only [hk, ne_eq, not_true, decide_false, List.filter_cons, List.all_eq_true]
        intro f hf
        exact h.2 f (List.mem_of_mem_filter hf)
      · simp only [set, if_neg hk, List.all_cons, Bool.and_eq_true] at h
        simpa [List.filter_cons, hk, h.1] using ih h.2

/-- A set adds its key to the keys, and no other. -/
theorem mem_keys_set {d : Dict κ ν} {k k' : κ} {v : ν} :
    k' ∈ (set d k v).map Prod.fst ↔ k' = k ∨ k' ∈ d.map Prod.fst := by
  induction d with
  | nil => simp [set]
  | cons e d ih =>
      obtain ⟨k₀, v₀⟩ := e
      by_cases hk : k₀ = k
      · simp [set, hk]
      · simp only [set, if_neg hk, List.map_cons, List.mem_cons, ih]
        exact or_left_comm

/-- Storing keeps the keys unique. -/
theorem nodup_keys_set {d : Dict κ ν} (hKeys : (d.map Prod.fst).Nodup) (k : κ) (v : ν) :
    ((set d k v).map Prod.fst).Nodup := by
  induction d with
  | nil => simp [set]
  | cons e d ih =>
      obtain ⟨k₀, v₀⟩ := e
      simp only [List.map_cons, List.nodup_cons] at hKeys
      by_cases hk : k₀ = k
      · subst hk
        simpa [set] using hKeys
      · simp only [set, if_neg hk, List.map_cons, List.nodup_cons]
        refine ⟨fun hMem => ?_, ih hKeys.2⟩
        rcases mem_keys_set.1 hMem with hSame | hOld
        · exact hk hSame
        · exact hKeys.1 hOld

/-- A dictionary that is filled from a list holds the last value of each key. -/
theorem get?_foldl_set {α : Type} (key : α → κ) (value : α → ν) (xs : List α) (k : κ) :
    get? (xs.foldl (fun d x => set d (key x) (value x)) []) k =
      ((xs.filter fun x => key x = k).getLast?).map value := by
  induction xs using List.reverseRecOn with
  | nil => rfl
  | append_singleton xs x ih =>
      rw [List.foldl_append, List.filter_append]
      show get? (set _ (key x) (value x)) k = _
      rw [get?_set]
      by_cases hk : key x = k
      · simp [hk]
      · simp [hk, ih]

/-- A key has one value however the list is ordered exactly when all its entries that are
kept have that value. -/
theorem get?_foldl_set_orders {α : Type} [DecidableEq α] (key : α → κ) (value : α → ν)
    (keep : α → Bool) (xs : List α) (k : κ) (v : ν) :
    (∀ ys : List α, ys.Perm xs →
        get? ((ys.filter keep).foldl (fun d x => set d (key x) (value x)) []) k = some v) ↔
      (∃ x ∈ xs, keep x ∧ key x = k) ∧ ∀ x ∈ xs, keep x → key x = k → value x = v := by
  constructor
  · intro h
    have hLast : ∀ x ∈ xs, keep x → key x = k → value x = v := by
      intro x hx hKeep hKey
      -- the order in which `x` comes last
      have hOrder : (xs.erase x ++ [x]).Perm xs :=
        List.perm_append_comm.trans (List.perm_cons_erase hx).symm
      have hGet := h _ hOrder
      rw [get?_foldl_set, List.filter_append, List.filter_append] at hGet
      simpa [hKeep, hKey] using hGet
    refine ⟨?_, hLast⟩
    have hGet := h xs (List.Perm.refl _)
    rw [get?_foldl_set, Option.map_eq_some_iff] at hGet
    obtain ⟨x, hx, -⟩ := hGet
    have hMem := List.mem_filter.1 (List.mem_of_getLast? hx)
    have hKept := List.mem_filter.1 hMem.1
    exact ⟨x, hKept.1, hKept.2, of_decide_eq_true hMem.2⟩
  · rintro ⟨⟨x, hx, hKeep, hKey⟩, hAll⟩ ys hPerm
    rw [get?_foldl_set, Option.map_eq_some_iff]
    have hMem : x ∈ (ys.filter keep).filter fun y => key y = k :=
      List.mem_filter.2 ⟨List.mem_filter.2 ⟨hPerm.mem_iff.2 hx, hKeep⟩, decide_eq_true hKey⟩
    obtain ⟨last, hLast⟩ := Option.isSome_iff_exists.1
      (List.getLast?_isSome.2 (List.ne_nil_of_mem hMem))
    have hLastMem := List.mem_filter.1 (List.mem_of_getLast? hLast)
    have hKept := List.mem_filter.1 hLastMem.1
    exact ⟨last, hLast, hAll last (hPerm.mem_iff.1 hKept.1) hKept.2 (of_decide_eq_true hLastMem.2)⟩

/-- Which keys a dictionary has depends on the keys only. -/
theorem map_fst_set {μ : Type} {d : Dict κ ν} {e : Dict κ μ}
    (h : d.map Prod.fst = e.map Prod.fst) (k : κ) (v : ν) (w : μ) :
    (set d k v).map Prod.fst = (set e k w).map Prod.fst := by
  induction d generalizing e with
  | nil =>
      cases e with
      | nil => rfl
      | cons b e => cases h
  | cons a d ih =>
      cases e with
      | nil => cases h
      | cons b e =>
          obtain ⟨k', v'⟩ := a
          obtain ⟨k'', w'⟩ := b
          obtain ⟨rfl, hRest⟩ := List.cons.inj h
          by_cases hk : k' = k
          · simp only [set, if_pos hk, List.map_cons]
            rw [show d.map Prod.fst = e.map Prod.fst from hRest]
          · simp only [set, if_neg hk, List.map_cons]
            rw [ih hRest]

/-- The keys of a dictionary built entry by entry, and their order, depend on the keys set and
on no value. -/
theorem map_fst_foldl_set {μ α : Type} (key : α → κ) (f : α → ν) (g : α → μ) (xs : List α) :
    (xs.foldl (fun d x => set d (key x) (f x)) []).map Prod.fst =
      (xs.foldl (fun d x => set d (key x) (g x)) []).map Prod.fst := by
  induction xs using List.reverseRecOn with
  | nil => rfl
  | append_singleton xs x ih =>
      rw [List.foldl_append, List.foldl_append]
      exact map_fst_set ih (key x) (f x) (g x)

/-- A dictionary that is filled from a list of keys has these keys with their values. -/
theorem get?_foldl_set_keys (value : κ → ν) (ks : List κ) (k : κ) :
    get? (ks.foldl (fun d k => set d k (value k)) []) k =
      if k ∈ ks then some (value k) else none := by
  rw [show get? (ks.foldl (fun d k => set d k (value k)) []) k =
    ((ks.filter fun x => id x = k).getLast?).map value from get?_foldl_set id value ks k]
  by_cases hk : k ∈ ks
  · rw [if_pos hk]
    have hMem : k ∈ ks.filter fun x => id x = k := List.mem_filter.2 ⟨hk, by simp⟩
    obtain ⟨last, hLast⟩ := Option.isSome_iff_exists.1
      (List.getLast?_isSome.2 (List.ne_nil_of_mem hMem))
    have hSame := (List.mem_filter.1 (List.mem_of_getLast? hLast)).2
    rw [hLast]
    simp only [id_eq, decide_eq_true_eq] at hSame
    rw [hSame]
    rfl
  · rw [if_neg hk]
    have hNil : (ks.filter fun x => id x = k) = [] := by
      rw [List.filter_eq_nil_iff]
      intro x hx hSame
      simp only [id_eq, decide_eq_true_eq] at hSame
      exact hk (hSame ▸ hx)
    rw [hNil]
    rfl

/-- In a dictionary with unique keys every entry is found. -/
theorem get?_eq_some_iff {d : Dict κ ν} (hKeys : (d.map Prod.fst).Nodup) {k : κ} {v : ν} :
    get? d k = some v ↔ (k, v) ∈ d := by
  constructor
  · exact mem_of_get?
  · intro hMem
    induction d with
    | nil => cases hMem
    | cons e d ih =>
        obtain ⟨k', v'⟩ := e
        simp only [List.map_cons, List.nodup_cons] at hKeys
        rcases List.mem_cons.1 hMem with hHead | hTail
        · obtain ⟨rfl, rfl⟩ := Prod.mk.inj hHead
          simp [get?]
        · have hNe : k' ≠ k := by
            rintro rfl
            exact hKeys.1 (List.mem_map_of_mem hTail)
          simpa [get?, hNe] using ih hKeys.2 hTail

/-- A new key is stored at the end. -/
theorem set_of_notMem {d : Dict κ ν} {k : κ} (h : k ∉ d.map Prod.fst) (v : ν) :
    set d k v = d ++ [(k, v)] := by
  induction d with
  | nil => rfl
  | cons e d ih =>
      obtain ⟨k', v'⟩ := e
      rw [List.map_cons, List.mem_cons, not_or] at h
      have hNe : ¬ k' = k := fun hSame => h.1 hSame.symm
      rw [set, if_neg hNe, ih h.2]
      rfl

/-- A key reads nothing exactly when no entry has it. -/
theorem get?_eq_none_iff {d : Dict κ ν} {k : κ} : get? d k = none ↔ k ∉ d.map Prod.fst := by
  induction d with
  | nil => simp
  | cons e d ih =>
      obtain ⟨k', v'⟩ := e
      by_cases hk : k' = k
      · simp [get?, hk]
      · have hNe : ¬ k = k' := fun hSame => hk hSame.symm
        simp only [get?, if_neg hk, ih, List.map_cons, List.mem_cons, hNe, false_or]

/-- Replacing the value of a key replaces it where it stands. -/
theorem set_eq_map {d : Dict κ ν} (hKeys : (d.map Prod.fst).Nodup) {k : κ} {v : ν} (f : ν → ν)
    (h : get? d k = some v) :
    set d k (f v) = d.map fun e => if e.1 = k then (e.1, f e.2) else e := by
  induction d with
  | nil => cases h
  | cons e d ih =>
      obtain ⟨k', v'⟩ := e
      simp only [List.map_cons, List.nodup_cons] at hKeys
      by_cases hk : k' = k
      · subst hk
        obtain rfl : v' = v := by simpa [get?] using h
        have hRest : d.map (fun e => if e.1 = k' then (e.1, f e.2) else e) = d := by
          refine (List.map_congr_left fun e he => ?_).trans (List.map_id d)
          have hNe : ¬ e.1 = k' := fun hSame => hKeys.1 (hSame ▸ List.mem_map_of_mem he)
          exact if_neg hNe
        simp only [set, List.map_cons, if_pos, hRest]
      · have hGet : get? d k = some v := by simpa [get?, hk] using h
        simp only [set, List.map_cons, if_neg hk, ih hKeys.2 hGet]

/-- With unique keys the order of the entries does not matter. -/
theorem get?_perm {d d' : Dict κ ν} (hKeys : (d.map Prod.fst).Nodup) (h : d.Perm d') (k : κ) :
    get? d k = get? d' k := by
  have hKeys' : (d'.map Prod.fst).Nodup := (h.map Prod.fst).nodup_iff.1 hKeys
  ext v
  rw [get?_eq_some_iff hKeys, get?_eq_some_iff hKeys', h.mem_iff]

end Dict

end AgentShield.Lib
