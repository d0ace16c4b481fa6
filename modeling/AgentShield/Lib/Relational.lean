import AgentShield.Lib.Dict
import AgentShield.Lib.HashChain
import Mathlib.Data.Fintype.Basic
import Mathlib.Logic.Function.Basic

/-!
# Tables under constraints and dictionaries of rows

A database keeps a list of rows for each table, and runs a command if and only if the tables
that it leaves satisfy the constraints of a schema.  A store of dictionaries keeps the rows
of a table under a key and checks nothing: it is written with a few idioms, each of which
stands for a command (`Implements`).

As long as the database refuses nothing the two hold the same rows (`Simulates`), and a
sequence of calls has the same outcome on both if and only if the database refuses none of
them (`refines_iff`).
-/

namespace AgentShield.Lib.Relational

variable {T K ρ : Type}

/-! ## Schemas -/

/-- The keys of a table and its references to the primary keys of others.  The key of a row
is `none` where a column of it is missing, and a reference is `none` where it is null. -/
structure TableSchema (T K ρ : Type) where
  primary : ρ → Option K
  unique : List (ρ → Option K) := []
  foreign : List (T × (ρ → Option K)) := []

def TableSchema.keys (s : TableSchema T K ρ) : List (ρ → Option K) := s.primary :: s.unique

abbrev Schema (T K ρ : Type) := T → TableSchema T K ρ

/-- The rows of each table. -/
abbrev Tables (T ρ : Type) := T → List ρ

/-- Every row has a key of its own. -/
def Distinct (key : ρ → Option K) (rows : List ρ) : Prop :=
  (∀ r ∈ rows, (key r).isSome = true) ∧ (rows.map key).Nodup

namespace Schema

variable (S : Schema T K ρ) (db : Tables T ρ)

/-- The row has all the keys of its table. -/
def Keyed (t : T) (r : ρ) : Prop := ∀ key ∈ (S t).keys, (key r).isSome = true

def KeysDistinct : Prop := ∀ t, ∀ key ∈ (S t).keys, Distinct key (db t)

def ReferencesMet : Prop :=
  ∀ t, ∀ fk ∈ (S t).foreign, ∀ row ∈ db t, ∀ k ∈ fk.2 row,
    ∃ r ∈ db fk.1, (S fk.1).primary r = some k

/-- The tables satisfy every constraint. -/
def Valid : Prop := S.KeysDistinct db ∧ S.ReferencesMet db

instance [Fintype T] [DecidableEq K] : Decidable (S.Valid db) :=
  inferInstanceAs (Decidable ((∀ t, ∀ key ∈ (S t).keys,
      (∀ r ∈ db t, (key r).isSome = true) ∧ ((db t).map key).Nodup) ∧
    ∀ t, ∀ fk ∈ (S t).foreign, ∀ row ∈ db t, ∀ k ∈ fk.2 row,
      ∃ r ∈ db fk.1, (S fk.1).primary r = some k))

end Schema

/-! ## Commands -/

inductive Command (T ρ : Type) where
  | insert (t : T) (row : ρ)
  /-- `ON CONFLICT DO NOTHING` on the primary key. -/
  | insertNew (t : T) (row : ρ)
  | update (t : T) (p : ρ → Bool) (f : ρ → ρ)
  | delete (t : T) (p : ρ → Bool)

namespace Schema

variable [DecidableEq T] [DecidableEq K] [Fintype T] (S : Schema T K ρ)

/-- The tables after a command. -/
def effect (db : Tables T ρ) : Command T ρ → Tables T ρ
  | .insert t row => Function.update db t (db t ++ [row])
  | .insertNew t row =>
      if ∃ r ∈ db t, (S t).primary r = (S t).primary row then db
      else Function.update db t (db t ++ [row])
  | .update t p f => Function.update db t ((db t).map fun r => if p r then f r else r)
  | .delete t p => Function.update db t ((db t).filter fun r => !p r)

/-- A command that would break a constraint is refused. -/
def run (db : Tables T ρ) (c : Command T ρ) : Option (Tables T ρ) :=
  if S.Valid (S.effect db c) then some (S.effect db c) else none

/-- All the commands, or none of them. -/
def transaction (db : Tables T ρ) : List (Command T ρ) → Option (Tables T ρ)
  | [] => some db
  | c :: cs => (S.run db c).bind fun db' => transaction db' cs

variable {S} {db : Tables T ρ}

theorem run_eq_some {c : Command T ρ} {db' : Tables T ρ} (h : S.run db c = some db') :
    S.Valid (S.effect db c) ∧ db' = S.effect db c := by
  unfold run at h
  by_cases hValid : S.Valid (S.effect db c)
  · rw [if_pos hValid] at h
    exact ⟨hValid, (Option.some.inj h).symm⟩
  · rw [if_neg hValid] at h
    cases h

theorem run_of_valid {c : Command T ρ} (h : S.Valid (S.effect db c)) :
    S.run db c = some (S.effect db c) := if_pos h

end Schema

/-! ## Dictionaries -/

/-- The rows of each table under their keys. -/
abbrev Shelves (T K ρ : Type) := T → Dict K ρ

/-- How a program writes its dictionaries.  Each idiom is the Python of one INSERT, UPDATE or
DELETE, and may do more or less than the statement. -/
inductive Idiom (T K ρ : Type) where
  /-- `shelf[key] = row`. -/
  | store (t : T) (row : ρ)
  /-- `shelf.setdefault(key, row)`. -/
  | setdefault (t : T) (row : ρ)
  /-- `log.append(row)`. -/
  | append (t : T) (row : ρ)
  /-- `row = shelf.get(k)`, and a change of the row that is found. -/
  | modify (t : T) (k : K) (f : ρ → ρ)
  /-- A change of `shelf[k]`, which raises where there is none. -/
  | modifyAt (t : T) (k : K) (f : ρ → ρ)
  | modifyWhere (t : T) (p : ρ → Bool) (f : ρ → ρ)
  /-- `shelf.pop(k, None)`. -/
  | pop (t : T) (k : K)
  | deleteWhere (t : T) (p : ρ → Bool)

namespace Idiom

variable [DecidableEq T] [DecidableEq K] (slot : T → ρ → K)

/-- The dictionaries afterwards, or `none` where the idiom raises.  Storing under a key that
is there replaces the row in its place. -/
def perform (m : Shelves T K ρ) : Idiom T K ρ → Option (Shelves T K ρ)
  | .store t row => some (Function.update m t (Dict.set (m t) (slot t row) row))
  | .setdefault t row =>
      match Dict.get? (m t) (slot t row) with
      | some _ => some m
      | none => some (Function.update m t (Dict.set (m t) (slot t row) row))
  | .append t row => some (Function.update m t (m t ++ [(slot t row, row)]))
  | .modify t k f =>
      match Dict.get? (m t) k with
      | some row => some (Function.update m t (Dict.set (m t) k (f row)))
      | none => some m
  | .modifyAt t k f =>
      match Dict.get? (m t) k with
      | some row => some (Function.update m t (Dict.set (m t) k (f row)))
      | none => none
  | .modifyWhere t p f =>
      some (Function.update m t ((m t).map fun e => if p e.2 then (e.1, f e.2) else e))
  | .pop t k => some (Function.update m t ((m t).filter fun e => e.1 ≠ k))
  | .deleteWhere t p => some (Function.update m t ((m t).filter fun e => !p e.2))

/-- One after the other, up to the first that raises. -/
def commit (m : Shelves T K ρ) : List (Idiom T K ρ) → Shelves T K ρ × Bool
  | [] => (m, true)
  | i :: is =>
      match perform slot m i with
      | some m' => commit m' is
      | none => (m, false)

section Raising

variable {slot} {m : Shelves T K ρ}

/-- Only a missing row makes an idiom raise. -/
theorem perform_eq_none {i : Idiom T K ρ} (h : i.perform slot m = none) :
    ∃ t k f, i = .modifyAt t k f ∧ Dict.get? (m t) k = none := by
  cases i with
  | modifyAt t k f =>
      cases hFound : Dict.get? (m t) k with
      | some row => simp [perform, hFound] at h
      | none => exact ⟨t, k, f, rfl, hFound⟩
  | setdefault t row =>
      simp only [perform] at h
      split at h <;> cases h
  | modify t k f =>
      simp only [perform] at h
      split at h <;> cases h
  | _ => cases h

theorem perform_modifyAt {m' : Shelves T K ρ} {t : T} {k : K} {f : ρ → ρ}
    (h : (modifyAt t k f).perform slot m = some m') : ∃ row, Dict.get? (m t) k = some row := by
  cases hFound : Dict.get? (m t) k with
  | some row => exact ⟨row, rfl⟩
  | none => simp [perform, hFound] at h

/-- The idiom never raises. -/
def safe : Idiom T K ρ → Bool
  | .modifyAt .. => false
  | _ => true

/-- A transaction of idioms that never raise comes to its end. -/
theorem commit_safe {is : List (Idiom T K ρ)} (hSafe : ∀ i ∈ is, i.safe = true) :
    (commit slot m is).2 = true := by
  induction is generalizing m with
  | nil => rfl
  | cons i is ih =>
      cases hPerform : i.perform slot m with
      | some m' =>
          rw [commit, hPerform]
          exact ih fun j hj => hSafe j (List.mem_cons_of_mem _ hj)
      | none =>
          obtain ⟨t, k, f, rfl, -⟩ := perform_eq_none hPerform
          cases hSafe _ List.mem_cons_self

end Raising

/-- The row that the idiom takes for granted is stored. -/
def Finds (db : Tables T ρ) : Idiom T K ρ → Prop
  | .modifyAt t k _ => ∃ r ∈ db t, slot t r = k
  | _ => True

instance (db : Tables T ρ) : (i : Idiom T K ρ) → Decidable (i.Finds slot db)
  | .modifyAt t k _ => inferInstanceAs (Decidable (∃ r ∈ db t, slot t r = k))
  | .store .. | .setdefault .. | .append .. | .modify .. | .modifyWhere .. | .pop .. |
    .deleteWhere .. => inferInstanceAs (Decidable True)

end Idiom

/-! ## The simulation -/

section Simulation

variable (S : Schema T K ρ) (slot : T → ρ → K)

/-- The dictionaries hold the rows of the tables, each under its own key. -/
structure Simulates (m : Shelves T K ρ) (db : Tables T ρ) : Prop where
  valid : S.Valid db
  rows : ∀ t, (m t).map Prod.snd = db t
  slots : ∀ t, ∀ e ∈ m t, e.1 = slot t e.2

/-- On the rows of the table the two updates choose the same rows, make the same of them,
and leave their key alone. -/
structure SameUpdate (t : T) (q : ρ → Prop) (f : ρ → ρ) (p : ρ → Bool) (g : ρ → ρ) : Prop where
  chosen : ∀ r, S.Keyed t r → (q r ↔ p r = true)
  result : ∀ r, p r = true → f r = g r
  slot : ∀ r, p r = true → slot t (g r) = slot t r

/-- The command for which an idiom stands, where rows have the keys that they are stored
under: the two choose the same rows and change them alike. -/
inductive Implements : Idiom T K ρ → Command T ρ → Prop
  | store {t : T} {row row' : ρ} (h : row = row') : Implements (.store t row) (.insert t row')
  | append {t : T} {row row' : ρ} (h : row = row') : Implements (.append t row) (.insert t row')
  | setdefault {t : T} {row row' : ρ} (h : row = row') :
      Implements (.setdefault t row) (.insertNew t row')
  | modify {t : T} {k : K} {f : ρ → ρ} {p : ρ → Bool} {g : ρ → ρ}
      (h : SameUpdate S slot t (fun r => slot t r = k) f p g) :
      Implements (.modify t k f) (.update t p g)
  | modifyAt {t : T} {k : K} {f : ρ → ρ} {p : ρ → Bool} {g : ρ → ρ}
      (h : SameUpdate S slot t (fun r => slot t r = k) f p g) :
      Implements (.modifyAt t k f) (.update t p g)
  | modifyWhere {t : T} {q : ρ → Bool} {f : ρ → ρ} {p : ρ → Bool} {g : ρ → ρ}
      (h : SameUpdate S slot t (fun r => q r = true) f p g) :
      Implements (.modifyWhere t q f) (.update t p g)
  | pop {t : T} {k : K} {p : ρ → Bool}
      (h : ∀ r, S.Keyed t r → (slot t r = k ↔ p r = true)) : Implements (.pop t k) (.delete t p)
  | deleteWhere {t : T} {q p : ρ → Bool} (h : ∀ r, S.Keyed t r → (q r = true ↔ p r = true)) :
      Implements (.deleteWhere t q) (.delete t p)

variable {S slot} {m : Shelves T K ρ} {db : Tables T ρ}

theorem Schema.Valid.keyed (h : S.Valid db) {t : T} {r : ρ} (hr : r ∈ db t) : S.Keyed t r :=
  fun key hKey => (h.1 t key hKey).1 r hr

theorem Schema.Keyed.primary {t : T} {r : ρ} (h : S.Keyed t r)
    (hSlot : ∀ t r k, (S t).primary r = some k → slot t r = k) :
    (S t).primary r = some (slot t r) := by
  obtain ⟨k, hk⟩ := Option.isSome_iff_exists.1 (h (S t).primary List.mem_cons_self)
  rw [hk, hSlot t r k hk]

namespace Simulates

variable (h : Simulates S slot m db)

include h

theorem mem_rows {t : T} {e : K × ρ} (he : e ∈ m t) : e.2 ∈ db t := by
  rw [← h.rows t]
  exact List.mem_map_of_mem he

theorem keyed {t : T} {e : K × ρ} (he : e ∈ m t) : S.Keyed t e.2 :=
  h.valid.keyed (h.mem_rows he)

theorem keys_eq (t : T) : (m t).map Prod.fst = (db t).map (slot t) := by
  rw [← h.rows t, List.map_map]
  exact List.map_congr_left fun e he => h.slots t e he

section Update

variable [DecidableEq T]

/-- Other entries for one table. -/
theorem update {t : T} {entries : Dict K ρ} {rows : List ρ}
    (hValid : S.Valid (Function.update db t rows)) (hRows : entries.map Prod.snd = rows)
    (hSlots : ∀ e ∈ entries, e.1 = slot t e.2) :
    Simulates S slot (Function.update m t entries) (Function.update db t rows) where
  valid := hValid
  rows t' := by
    by_cases hSame : t' = t
    · subst hSame
      rw [Function.update_self, Function.update_self, hRows]
    · rw [Function.update_of_ne hSame, Function.update_of_ne hSame, h.rows t']
  slots t' := by
    by_cases hSame : t' = t
    · subst hSame
      rwa [Function.update_self]
    · rw [Function.update_of_ne hSame]
      exact h.slots t'

/-- A row that the database accepts, at the end of its table. -/
theorem insert {t : T} {row : ρ} (hValid : S.Valid (Function.update db t (db t ++ [row]))) :
    Simulates S slot (Function.update m t (m t ++ [(slot t row, row)]))
      (Function.update db t (db t ++ [row])) := by
  refine h.update hValid ?_ fun e he => ?_
  · rw [List.map_append, h.rows t]
    rfl
  · rcases List.mem_append.1 he with hOld | hNew
    · exact h.slots t e hOld
    · rw [List.mem_singleton.1 hNew]

/-- The same update of the entries and of the rows. -/
theorem map {t : T} {f g : ρ → ρ} {p : ρ → Bool} {q : K × ρ → Prop} [DecidablePred q]
    (hChosen : ∀ e ∈ m t, (q e ↔ p e.2 = true)) (hResult : ∀ r, p r = true → f r = g r)
    (hSlots : ∀ r, p r = true → slot t (g r) = slot t r)
    (hValid : S.Valid (Function.update db t ((db t).map fun r => if p r then g r else r))) :
    Simulates S slot
      (Function.update m t ((m t).map fun e => if q e then (e.1, f e.2) else e))
      (Function.update db t ((db t).map fun r => if p r then g r else r)) := by
  refine h.update hValid ?_ fun e he => ?_
  · rw [← h.rows t, List.map_map, List.map_map]
    refine List.map_congr_left fun e he => ?_
    by_cases hp : p e.2 = true
    · simp [hp, (hChosen e he).2 hp, hResult e.2 hp]
    · have hq : ¬ q e := fun hq => hp ((hChosen e he).1 hq)
      simp [hp, hq]
  · obtain ⟨e₀, he₀, rfl⟩ := List.mem_map.1 he
    by_cases hp : p e₀.2 = true
    · rw [if_pos ((hChosen e₀ he₀).2 hp), hResult e₀.2 hp, hSlots e₀.2 hp]
      exact h.slots t e₀ he₀
    · rw [if_neg fun hq => hp ((hChosen e₀ he₀).1 hq)]
      exact h.slots t e₀ he₀

/-- The same entries and rows are left. -/
theorem filter {t : T} {p : ρ → Bool} {q : K × ρ → Bool}
    (hChosen : ∀ e ∈ m t, q e = !p e.2)
    (hValid : S.Valid (Function.update db t ((db t).filter fun r => !p r))) :
    Simulates S slot (Function.update m t ((m t).filter q))
      (Function.update db t ((db t).filter fun r => !p r)) := by
  refine h.update hValid ?_ fun e he => h.slots t e (List.mem_of_mem_filter he)
  have hSame : (m t).filter q = (m t).filter ((fun r => !p r) ∘ Prod.snd) :=
    List.filter_congr hChosen
  rw [hSame, ← List.filter_map, h.rows t]

variable [DecidableEq K]

/-- Nothing under the key, and nothing to update. -/
theorem update_none {t : T} {k : K} {f g : ρ → ρ} {p : ρ → Bool}
    (hFound : Dict.get? (m t) k = none)
    (hUpdate : SameUpdate S slot t (fun r => slot t r = k) f p g) :
    Function.update db t ((db t).map fun r => if p r then g r else r) = db := by
  have hRows : (db t).map (fun r => if p r then g r else r) = db t := by
    refine (List.map_congr_left fun r hr => ?_).trans (List.map_id (db t))
    have hOther : ¬ p r = true := by
      intro hp
      have hKey : slot t r = k := (hUpdate.chosen r (h.valid.keyed hr)).2 hp
      have hMem : k ∈ (m t).map Prod.fst := by
        rw [h.keys_eq t, ← hKey]
        exact List.mem_map_of_mem hr
      exact Dict.get?_eq_none_iff.1 hFound hMem
    exact if_neg hOther
  rw [hRows, Function.update_eq_self]

end Update

variable (hSlot : ∀ t r k, (S t).primary r = some k → slot t r = k)

include hSlot

theorem primary {t : T} {r : ρ} (hr : r ∈ db t) : (S t).primary r = some (slot t r) :=
  (h.valid.keyed hr).primary hSlot

theorem nodup_keys (t : T) : ((m t).map Prod.fst).Nodup := by
  have hDistinct : ((db t).map (S t).primary).Nodup := (h.valid.1 t _ List.mem_cons_self).2
  have hPrimary : (db t).map (S t).primary = ((db t).map (slot t)).map some := by
    rw [List.map_map]
    exact List.map_congr_left fun r hr => h.primary hSlot hr
  rw [h.keys_eq t]
  rw [hPrimary] at hDistinct
  exact hDistinct.of_map some

variable [DecidableEq T]

/-- The key of a row that the database accepts is not in use. -/
theorem slot_notMem {t : T} {row : ρ} (hValid : S.Valid (Function.update db t (db t ++ [row]))) :
    slot t row ∉ (m t).map Prod.fst := by
  have hDistinct := hValid.1 t _ List.mem_cons_self
  rw [Function.update_self] at hDistinct
  have hKey : (S t).primary row = some (slot t row) := by
    obtain ⟨k, hk⟩ := Option.isSome_iff_exists.1 (hDistinct.1 row (by simp))
    rw [hk, hSlot t row k hk]
  have hApart := hDistinct.2
  rw [List.map_append] at hApart
  rw [h.keys_eq t]
  intro hMem
  obtain ⟨r, hr, hSame⟩ := List.mem_map.1 hMem
  have hOld : some (slot t row) ∈ (db t).map (S t).primary := by
    rw [← hSame, ← h.primary hSlot hr]
    exact List.mem_map_of_mem hr
  exact (List.nodup_append.1 hApart).2.2 _ hOld _ (by simp [hKey]) rfl

variable [DecidableEq K]

/-- A row found under its key, rewritten in place. -/
theorem modify {t : T} {k : K} {row : ρ} {f g : ρ → ρ} {p : ρ → Bool}
    (hFound : Dict.get? (m t) k = some row)
    (hUpdate : SameUpdate S slot t (fun r => slot t r = k) f p g)
    (hValid : S.Valid (Function.update db t ((db t).map fun r => if p r then g r else r))) :
    Simulates S slot (Function.update m t (Dict.set (m t) k (f row)))
      (Function.update db t ((db t).map fun r => if p r then g r else r)) := by
  rw [Dict.set_eq_map (h.nodup_keys hSlot t) f hFound]
  refine h.map (fun e he => ?_) hUpdate.result hUpdate.slot hValid
  rw [h.slots t e he]
  exact hUpdate.chosen e.2 (h.keyed he)

/-- **One write.**  Where the database accepts the command, the idiom does the same to the
dictionaries: rows have the keys they are stored under, before and after. -/
theorem perform [Fintype T] {i : Idiom T K ρ} {c : Command T ρ} (hImpl : Implements S slot i c)
    (hValid : S.Valid (S.effect db c)) (hFinds : i.Finds slot db) :
    ∃ m', i.perform slot m = some m' ∧ Simulates S slot m' (S.effect db c) := by
  cases hImpl with
  | @store t row _ hSame =>
      subst hSame
      refine ⟨_, rfl, ?_⟩
      rw [Dict.set_of_notMem (h.slot_notMem hSlot hValid)]
      exact h.insert hValid
  | @append t row _ hSame =>
      subst hSame
      exact ⟨_, rfl, h.insert hValid⟩
  | @setdefault t row _ hSame =>
      subst hSame
      by_cases hStored : ∃ r ∈ db t, (S t).primary r = (S t).primary row
      · have hEffect : S.effect db (.insertNew t row) = db := if_pos hStored
        obtain ⟨r, hr, hPrimary⟩ := hStored
        rw [h.primary hSlot hr] at hPrimary
        have hMem : slot t row ∈ (m t).map Prod.fst := by
          rw [hSlot t row _ hPrimary.symm, h.keys_eq t]
          exact List.mem_map_of_mem hr
        obtain ⟨v, hv⟩ := Dict.exists_get?_of_mem_keys hMem
        exact ⟨m, by simp only [Idiom.perform, hv], by rwa [hEffect]⟩
      · have hEffect : S.effect db (.insertNew t row) =
            Function.update db t (db t ++ [row]) := if_neg hStored
        rw [hEffect] at hValid ⊢
        have hNew := h.slot_notMem hSlot hValid
        refine ⟨Function.update m t (Dict.set (m t) (slot t row) row),
          by simp only [Idiom.perform, Dict.get?_eq_none_iff.2 hNew], ?_⟩
        rw [Dict.set_of_notMem hNew]
        exact h.insert hValid
  | @modify t k f p g hUpdate =>
      cases hFound : Dict.get? (m t) k with
      | some row =>
          exact ⟨_, by simp only [Idiom.perform, hFound], h.modify hSlot hFound hUpdate hValid⟩
      | none =>
          refine ⟨m, by simp only [Idiom.perform, hFound], ?_⟩
          have hEffect : S.effect db (.update t p g) = db := h.update_none hFound hUpdate
          rwa [hEffect]
  | @modifyAt t k f p g hUpdate =>
      obtain ⟨r, hr, hKey⟩ := hFinds
      have hMem : k ∈ (m t).map Prod.fst := by
        rw [h.keys_eq t, ← hKey]
        exact List.mem_map_of_mem hr
      obtain ⟨row, hFound⟩ := Dict.exists_get?_of_mem_keys hMem
      exact ⟨_, by simp only [Idiom.perform, hFound], h.modify hSlot hFound hUpdate hValid⟩
  | @modifyWhere t q f p g hUpdate =>
      exact ⟨_, rfl, h.map (fun e he => hUpdate.chosen e.2 (h.keyed he)) hUpdate.result
        hUpdate.slot hValid⟩
  | @pop t k p hChosen =>
      refine ⟨_, rfl, h.filter (fun e he => ?_) hValid⟩
      have hBoth := hChosen e.2 (h.keyed he)
      rw [← h.slots t e he] at hBoth
      by_cases hp : p e.2 = true
      · simp [hp, hBoth.2 hp]
      · have hNe : e.1 ≠ k := fun hKey => hp (hBoth.1 hKey)
        simp [hp, hNe]
  | @deleteWhere t q p hChosen =>
      refine ⟨_, rfl, h.filter (fun e he => ?_) hValid⟩
      rw [Bool.eq_iff_iff.2 (hChosen e.2 (h.keyed he))]

/-- **One transaction** that the database accepts, of idioms that never raise. -/
theorem commit [Fintype T] {σ : Type} {idiom : σ → Idiom T K ρ} {command : σ → Command T ρ}
    (hImpl : ∀ st, Implements S slot (idiom st) (command st)) {sts : List σ} {db' : Tables T ρ}
    (hSafe : ∀ st ∈ sts, (idiom st).safe = true)
    (hRun : S.transaction db (sts.map command) = some db') :
    ∃ m', Idiom.commit slot m (sts.map idiom) = (m', true) ∧ Simulates S slot m' db' := by
  induction sts generalizing m db with
  | nil =>
      obtain rfl : db = db' := Option.some.inj hRun
      exact ⟨m, rfl, h⟩
  | cons st sts ih =>
      obtain ⟨db₁, hFirst, hRest⟩ := Option.bind_eq_some_iff.1 hRun
      obtain ⟨hValid, rfl⟩ := Schema.run_eq_some hFirst
      have hFinds : (idiom st).Finds slot db := by
        have hSafeFirst := hSafe st List.mem_cons_self
        cases hIdiom : idiom st with
        | modifyAt t k f =>
            rw [hIdiom] at hSafeFirst
            cases hSafeFirst
        | _ => trivial
      obtain ⟨m₁, hPerform, h₁⟩ := h.perform hSlot (hImpl st) hValid hFinds
      obtain ⟨m', hCommit, h'⟩ :=
        ih h₁ (fun st' hMem => hSafe st' (List.mem_cons_of_mem _ hMem)) hRest
      exact ⟨m', by rw [List.map_cons, Idiom.commit, hPerform]; exact hCommit, h'⟩

end Simulates

end Simulation

/-! ## Queries -/

structure Query (T ρ : Type) where
  table : T
  chosen : ρ → Bool
  /-- `ORDER BY`, ascending. -/
  order : ρ → Int := fun _ => 0
  columns : ρ → ρ := id
  /-- Only the first row is asked for. -/
  single : Bool := false

namespace Query

variable (q : Query T ρ) (db : Tables T ρ)

def found : List ρ := (db q.table).filter q.chosen

/-- What the database may answer: the rows in any order that `ORDER BY` allows. -/
def Answers (rows : List ρ) : Prop :=
  if q.single = true then
    (q.found db = [] ∧ rows = []) ∨
      ∃ r ∈ q.found db, (∀ r' ∈ q.found db, q.order r ≤ q.order r') ∧ rows = [q.columns r]
  else
    ∃ full : List ρ, full.Perm (q.found db) ∧
      full.Pairwise (fun r r' => q.order r ≤ q.order r') ∧ rows = full.map q.columns

end Query

/-- How a program reads its dictionaries, one row at a time or several in some order. -/
inductive Lookup (T K ρ : Type) where
  /-- The row under a key, where it passes a test. -/
  | get (t : T) (k : K) (p : ρ → Bool)
  /-- The first row that passes. -/
  | first (t : T) (p : ρ → Bool)
  /-- `max` of the rows that pass. -/
  | best (t : T) (p : ρ → Bool) (key : ρ → Int)
  | all (t : T) (p : ρ → Bool)
  | sorted (t : T) (p : ρ → Bool) (key : ρ → Int)

def Lookup.rows [DecidableEq K] (m : Shelves T K ρ) : Lookup T K ρ → List ρ
  | .get t k p => ((Dict.get? (m t) k).filter p).toList
  | .first t p => (((m t).map Prod.snd).find? p).toList
  | .best t p key => (HashChain.latest key (((m t).map Prod.snd).filter p)).toList
  | .all t p => ((m t).map Prod.snd).filter p
  | .sorted t p key => (((m t).map Prod.snd).filter p).mergeSort fun r r' => key r ≤ key r'

section Queries

variable (S : Schema T K ρ) (slot : T → ρ → K)

/-- The query that a lookup answers: both pass the same rows, in the same order, and the
lookup is asked for one row where the query is. -/
inductive Gives : Lookup T K ρ → Query T ρ → Prop
  | get {t : T} {k : K} {p chosen : ρ → Bool} {columns : ρ → ρ}
      (h : ∀ r, S.Keyed t r → (slot t r = k ∧ p r = true ↔ chosen r = true)) :
      Gives (.get t k p) { table := t, chosen := chosen, columns := columns, single := true }
  | first {t : T} {p chosen : ρ → Bool} {columns : ρ → ρ}
      (h : ∀ r, S.Keyed t r → (p r = true ↔ chosen r = true)) :
      Gives (.first t p) { table := t, chosen := chosen, columns := columns, single := true }
  | best {t : T} {p chosen : ρ → Bool} {key order : ρ → Int} {columns : ρ → ρ}
      (h : ∀ r, S.Keyed t r → (p r = true ↔ chosen r = true)) (hOrder : ∀ r, order r = -key r) :
      Gives (.best t p key)
        { table := t, chosen := chosen, order := order, columns := columns, single := true }
  | all {t : T} {p chosen : ρ → Bool} {columns : ρ → ρ}
      (h : ∀ r, S.Keyed t r → (p r = true ↔ chosen r = true)) :
      Gives (.all t p) { table := t, chosen := chosen, columns := columns }
  | sorted {t : T} {p chosen : ρ → Bool} {key : ρ → Int} {columns : ρ → ρ}
      (h : ∀ r, S.Keyed t r → (p r = true ↔ chosen r = true)) :
      Gives (.sorted t p key) { table := t, chosen := chosen, order := key, columns := columns }

variable {S slot} {m : Shelves T K ρ} {db : Tables T ρ}

theorem Schema.Valid.filter_eq (h : S.Valid db) {t : T} {p chosen : ρ → Bool}
    (hSame : ∀ r, S.Keyed t r → (p r = true ↔ chosen r = true)) :
    (db t).filter p = (db t).filter chosen :=
  List.filter_congr fun r hr => Bool.eq_iff_iff.2 (hSame r (h.keyed hr))

/-- **One query.**  What a lookup finds is an answer that the database may give: the same
rows, in an order that the query allows, or one row where it asks for one. -/
theorem Simulates.answers [DecidableEq K] (h : Simulates S slot m db)
    (hSlot : ∀ t r k, (S t).primary r = some k → slot t r = k) {l : Lookup T K ρ} {q : Query T ρ}
    (hGives : Gives S slot l q) : q.Answers db ((l.rows m).map q.columns) := by
  cases hGives with
  | @get t k p chosen columns hSame =>
      unfold Query.Answers
      rw [if_pos rfl]
      have hEntry : ∀ r ∈ (db t).filter chosen, Dict.get? (m t) k = some r ∧ p r = true := by
        intro r hr
        obtain ⟨hRow, hChosen⟩ := List.mem_filter.1 hr
        obtain ⟨hKey, hp⟩ := (hSame r (h.valid.keyed hRow)).2 hChosen
        rw [← h.rows t] at hRow
        obtain ⟨e, he, rfl⟩ := List.mem_map.1 hRow
        rw [← hKey, ← h.slots t e he]
        exact ⟨(Dict.get?_eq_some_iff (h.nodup_keys hSlot t)).2 he, hp⟩
      cases hFound : (Dict.get? (m t) k).filter p with
      | none =>
          refine .inl ⟨List.eq_nil_iff_forall_not_mem.2 fun r hr => ?_, ?_⟩
          · obtain ⟨hGet, hp⟩ := hEntry r hr
            rw [hGet] at hFound
            simp [Option.filter, hp] at hFound
          · simp [Lookup.rows, hFound]
      | some row =>
          obtain ⟨hGet, hp⟩ := Option.filter_eq_some_iff.1 hFound
          have he := (Dict.get?_eq_some_iff (h.nodup_keys hSlot t)).1 hGet
          have hRow : row ∈ db t := h.mem_rows he
          have hKey : slot t row = k := (h.slots t _ he).symm
          have hChosen : chosen row = true := (hSame row (h.valid.keyed hRow)).1 ⟨hKey, hp⟩
          refine .inr ⟨row, List.mem_filter.2 ⟨hRow, hChosen⟩, fun _ _ => Int.le_refl _, ?_⟩
          simp [Lookup.rows, hFound]
  | @first t p chosen columns hSame =>
      unfold Query.Answers Query.found
      rw [if_pos rfl, ← h.valid.filter_eq hSame]
      cases hFound : (db t).find? p with
      | none =>
          refine .inl ⟨List.filter_eq_nil_iff.2 (List.find?_eq_none.1 hFound), ?_⟩
          simp [Lookup.rows, h.rows t, hFound]
      | some row =>
          have hMem := List.mem_filter.2
            ⟨List.mem_of_find?_eq_some hFound, List.find?_some hFound⟩
          refine .inr ⟨row, hMem, fun _ _ => Int.le_refl _, ?_⟩
          simp [Lookup.rows, h.rows t, hFound]
  | @best t p chosen key order columns hSame hOrder =>
      unfold Query.Answers Query.found
      rw [if_pos rfl, ← h.valid.filter_eq hSame]
      cases hFound : HashChain.latest key ((db t).filter p) with
      | none =>
          refine .inl ⟨HashChain.latest_eq_none hFound, ?_⟩
          simp [Lookup.rows, h.rows t, hFound]
      | some row =>
          obtain ⟨hMem, hTop⟩ := HashChain.latest_spec hFound
          refine .inr ⟨row, hMem, fun r hr => ?_, ?_⟩
          · have hMax : key r ≤ key row := hTop r hr
            have hNeg := hOrder row
            have hNeg' := hOrder r
            show order row ≤ order r
            omega
          · simp [Lookup.rows, h.rows t, hFound]
  | @all t p chosen columns hSame =>
      unfold Query.Answers Query.found
      rw [if_neg (by simp), ← h.valid.filter_eq hSame]
      refine ⟨(db t).filter p, List.Perm.refl _, ?_, by simp [Lookup.rows, h.rows t]⟩
      exact List.pairwise_of_forall fun _ _ => Int.le_refl _
  | @sorted t p chosen key columns hSame =>
      unfold Query.Answers Query.found
      rw [if_neg (by simp), ← h.valid.filter_eq hSame]
      refine ⟨((db t).filter p).mergeSort fun r r' => key r ≤ key r',
        List.mergeSort_perm _ _, ?_, by simp [Lookup.rows, h.rows t]⟩
      have hSorted := @List.pairwise_mergeSort _ (fun r r' : ρ => decide (key r ≤ key r'))
        (fun a b c hab hbc => decide_eq_true
          (Int.le_trans (of_decide_eq_true hab) (of_decide_eq_true hbc)))
        (fun a b => by
          rcases Int.le_total (key a) (key b) with hab | hba
          · simp [hab]
          · simp [hba]) ((db t).filter p)
      exact hSorted.imp of_decide_eq_true

end Queries

/-! ## Calls -/

/-- The statements `σ` and the queries `θ` of a program, as each of the two stores runs
them. -/
structure Pairing (S : Schema T K ρ) (slot : T → ρ → K) (σ θ : Type) where
  idiom : σ → Idiom T K ρ
  command : σ → Command T ρ
  implements : ∀ st, Implements S slot (idiom st) (command st)
  lookup : θ → Lookup T K ρ
  query : θ → Query T ρ
  gives : ∀ q, Gives S slot (lookup q) (query q)
  /-- What is handed out of a row that is found. -/
  view : θ → ρ → ρ
  columns_view : ∀ q r, (query q).columns (view q r) = (query q).columns r

/-- A statement of its own, a transaction whose body may raise after its statements, or a
query. -/
inductive Call {S : Schema T K ρ} {slot : T → ρ → K} {σ θ : Type} (P : Pairing S slot σ θ) where
  | execute (st : σ)
  | transaction (sts : List σ) (fails : Bool) (safe : ∀ st ∈ sts, (P.idiom st).safe = true)
  | fetch (q : θ)

inductive Outcome (ρ : Type) where
  | done
  | raised
  | rows (rows : List ρ)

section Calls

variable [DecidableEq T] [DecidableEq K] [Fintype T] {S : Schema T K ρ} {slot : T → ρ → K}
  {σ θ : Type} {P : Pairing S slot σ θ}

namespace Call

variable (m : Shelves T K ρ) (db : Tables T ρ)

/-- The dictionaries after a call, and its outcome.  A transaction keeps its statements until
its body is through. -/
def onShelves : Call P → Shelves T K ρ × Outcome ρ
  | .execute st =>
      match (P.idiom st).perform slot m with
      | some m' => (m', .done)
      | none => (m, .raised)
  | .transaction sts fails _ =>
      if fails = true then (m, .raised)
      else
        let committed := Idiom.commit slot m (sts.map P.idiom)
        (committed.1, if committed.2 = true then .done else .raised)
  | .fetch q => (m, .rows (((P.lookup q).rows m).map (P.view q)))

/-- The tables after a call. -/
def onTables : Call P → Tables T ρ
  | .execute st => (S.run db (P.command st)).getD db
  | .transaction sts fails _ =>
      if fails = true then db else (S.transaction db (sts.map P.command)).getD db
  | .fetch _ => db

/-- The outcomes that the database allows.  Of the rows of an answer the columns count that
the query names. -/
def Permits : Call P → Outcome ρ → Prop
  | .execute st, o => o = if (S.run db (P.command st)).isSome = true then .done else .raised
  | .transaction sts fails _, o =>
      o = if fails = false ∧ (S.transaction db (sts.map P.command)).isSome = true then .done
        else .raised
  | .fetch q, o =>
      ∃ rows, o = .rows rows ∧ (P.query q).Answers db (rows.map (P.query q).columns)

/-- The database refuses nothing, and the rows that are taken for granted are there. -/
def Accepted : Call P → Prop
  | .execute st => S.Valid (S.effect db (P.command st)) ∧ (P.idiom st).Finds slot db
  | .transaction sts fails _ =>
      fails = true ∨ (S.transaction db (sts.map P.command)).isSome = true
  | .fetch _ => True

instance : (c : Call P) → Decidable (c.Accepted db)
  | .execute st => inferInstanceAs
      (Decidable (S.Valid (S.effect db (P.command st)) ∧ (P.idiom st).Finds slot db))
  | .transaction sts fails _ => inferInstanceAs
      (Decidable (fails = true ∨ (S.transaction db (sts.map P.command)).isSome = true))
  | .fetch _ => inferInstanceAs (Decidable True)

/-- The call has the same outcome on both, leaves the same rows, and undoes what it did
where it is a transaction that fails. -/
structure Agrees (c : Call P) : Prop where
  outcome : c.Permits db (c.onShelves m).2
  rows : ∀ t, ((c.onShelves m).1 t).map Prod.snd = c.onTables db t
  rollback : ∀ sts fails safe, c = .transaction sts fails safe →
    (c.onShelves m).2 = .raised → (c.onShelves m).1 = m

end Call

/-- Every call of a sequence agrees, each in the states that those before it have left. -/
def Refines (m : Shelves T K ρ) (db : Tables T ρ) : List (Call P) → Prop
  | [] => True
  | c :: cs => c.Agrees m db ∧ Refines (c.onShelves m).1 (c.onTables db) cs

/-- The database refuses no call of a sequence. -/
def AllAccepted (db : Tables T ρ) : List (Call P) → Prop
  | [] => True
  | c :: cs => c.Accepted db ∧ AllAccepted (c.onTables db) cs

instance allAcceptedDecidable (db : Tables T ρ) :
    (cs : List (Call P)) → Decidable (AllAccepted db cs)
  | [] => inferInstanceAs (Decidable True)
  | c :: cs =>
      have := allAcceptedDecidable (c.onTables db) cs
      inferInstanceAs (Decidable (c.Accepted db ∧ AllAccepted (c.onTables db) cs))

variable {m : Shelves T K ρ} {db : Tables T ρ}

/-- **One call** that is accepted: the writes of a transaction one after the other, or one
query, with the same answer on both sides. -/
theorem Simulates.call (h : Simulates S slot m db)
    (hSlot : ∀ t r k, (S t).primary r = some k → slot t r = k) {c : Call P}
    (hAccepted : c.Accepted db) :
    c.Agrees m db ∧ Simulates S slot (c.onShelves m).1 (c.onTables db) := by
  cases c with
  | execute st =>
      obtain ⟨hValid, hFinds⟩ := hAccepted
      obtain ⟨m', hPerform, h'⟩ := h.perform hSlot (P.implements st) hValid hFinds
      have hRun := Schema.run_of_valid hValid
      have hShelves : (Call.execute (P := P) st).onShelves m = (m', .done) := by
        simp only [Call.onShelves, hPerform]
      have hTables : (Call.execute (P := P) st).onTables db = S.effect db (P.command st) := by
        simp only [Call.onTables, hRun, Option.getD_some]
      rw [hShelves, hTables]
      refine ⟨⟨?_, ?_, nofun⟩, h'⟩
      · rw [hShelves]
        simp only [Call.Permits, hRun, Option.isSome_some, if_pos]
      · rw [hShelves, hTables]
        exact h'.rows
  | transaction sts fails safe =>
      cases fails with
      | true =>
          exact ⟨⟨by simp [Call.Permits, Call.onShelves], h.rows, fun _ _ _ _ _ => rfl⟩, h⟩
      | false =>
          obtain ⟨db', hRun⟩ := Option.isSome_iff_exists.1 (hAccepted.resolve_left nofun)
          obtain ⟨m', hCommit, h'⟩ := h.commit hSlot P.implements safe hRun
          have hShelves : (Call.transaction (P := P) sts false safe).onShelves m =
              (m', .done) := by
            simp only [Call.onShelves, hCommit, Bool.false_eq_true, if_false, if_true]
          have hTables : (Call.transaction (P := P) sts false safe).onTables db = db' := by
            simp only [Call.onTables, hRun, Bool.false_eq_true, if_false, Option.getD_some]
          rw [hShelves, hTables]
          refine ⟨⟨?_, ?_, fun _ _ _ _ hRaised => ?_⟩, h'⟩
          · rw [hShelves]
            simp [Call.Permits, hRun]
          · rw [hShelves, hTables]
            exact h'.rows
          · rw [hShelves] at hRaised
            cases hRaised
  | fetch q =>
      refine ⟨⟨⟨_, rfl, ?_⟩, h.rows, nofun⟩, h⟩
      have hColumns : (((P.lookup q).rows m).map (P.view q)).map (P.query q).columns =
          ((P.lookup q).rows m).map (P.query q).columns := by
        rw [List.map_map]
        exact List.map_congr_left fun r _ => P.columns_view q r
      rw [hColumns]
      exact h.answers hSlot (P.gives q)

/-- **A call that agrees is accepted**: where the two sides answer alike and end alike, the
database has refused nothing. -/
theorem Simulates.accepted (h : Simulates S slot m db) {c : Call P}
    (hAgrees : c.Agrees m db) : c.Accepted db := by
  cases c with
  | execute st =>
      have hOutcome := hAgrees.outcome
      cases hPerform : (P.idiom st).perform slot m with
      | some m' =>
          simp only [Call.Permits, Call.onShelves, hPerform] at hOutcome
          by_cases hRun : (S.run db (P.command st)).isSome = true
          · obtain ⟨db', hSome⟩ := Option.isSome_iff_exists.1 hRun
            refine ⟨(Schema.run_eq_some hSome).1, ?_⟩
            cases hIdiom : P.idiom st with
            | modifyAt t k f =>
                rw [hIdiom] at hPerform
                obtain ⟨row, hFound⟩ := Idiom.perform_modifyAt hPerform
                have he := Dict.mem_of_get? hFound
                exact ⟨row, h.mem_rows he, (h.slots t _ he).symm⟩
            | _ => trivial
          · rw [if_neg hRun] at hOutcome
            cases hOutcome
      | none =>
          obtain ⟨t, k, f, hIdiom, hFound⟩ := Idiom.perform_eq_none hPerform
          have hImpl := P.implements st
          rw [hIdiom] at hImpl
          have hRun : S.run db (P.command st) = some db := by
            generalize P.command st = command at hImpl ⊢
            cases hImpl with
            | @modifyAt _ _ _ p g hUpdate =>
                have hEffect : S.effect db (.update t p g) = db := h.update_none hFound hUpdate
                rw [Schema.run_of_valid (by rw [hEffect]; exact h.valid), hEffect]
          simp [Call.Permits, Call.onShelves, hPerform, hRun] at hOutcome
  | transaction sts fails safe =>
      cases fails with
      | true => exact .inl rfl
      | false =>
          have hCommit : (Idiom.commit slot m (sts.map P.idiom)).2 = true := by
            refine Idiom.commit_safe fun i hi => ?_
            obtain ⟨st, hst, rfl⟩ := List.mem_map.1 hi
            exact safe st hst
          have hOutcome := hAgrees.outcome
          simp only [Call.Permits, Call.onShelves, hCommit, Bool.false_eq_true, if_false,
            if_true, true_and] at hOutcome
          by_cases hRun : (S.transaction db (sts.map P.command)).isSome = true
          · exact .inr hRun
          · rw [if_neg hRun] at hOutcome
            cases hOutcome
  | fetch q => trivial

/-- **The refinement.**  From states that hold the same rows, a sequence of calls agrees if
and only if the database refuses none of them. -/
theorem refines_iff (h : Simulates S slot m db)
    (hSlot : ∀ t r k, (S t).primary r = some k → slot t r = k) (cs : List (Call P)) :
    Refines m db cs ↔ AllAccepted db cs := by
  induction cs generalizing m db with
  | nil => exact Iff.rfl
  | cons c cs ih =>
      constructor
      · intro hRefines
        have hAccepted := h.accepted hRefines.1
        exact ⟨hAccepted, (ih (h.call hSlot hAccepted).2).1 hRefines.2⟩
      · intro hAll
        obtain ⟨hAgrees, hNext⟩ := h.call hSlot hAll.1
        exact ⟨hAgrees, (ih hNext).2 hAll.2⟩

end Calls

end AgentShield.Lib.Relational
