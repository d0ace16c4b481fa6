import Mathlib.Data.List.Lex
import Mathlib.Data.List.Pairwise
import AgentShield.Lib.Utf16
import AgentShield.Sdk.SigningString

/-!
# The canonical text and RFC 8785

`Rfc8785.serialize` is the canonicalization scheme of the RFC for values without
floats: members in the order of the UTF-16 code units of their names at every level, and
strings and integers as ECMAScript writes them.  `jcsCanonicalize` orders members by
code points, so the two texts are the same exactly when no object has two names that
the orders tell apart (`jcsCanonicalize_is_rfc8785`).
-/

namespace AgentShield.Sdk

open AgentShield.Lib

/-! ## The scheme -/

namespace Rfc8785

/-- The characters with an escape of two characters. -/
def shortEscapes : List (Nat × Char) :=
  [(8, 'b'), (9, 't'), (10, 'n'), (12, 'f'), (13, 'r'), (34, Char.ofNat 34), (92, '\\')]

/-- A backslash, `u` and four hexadecimal digits in lower case. -/
def unicodeEscape (n : Nat) : List Char :=
  '\\' :: 'u' :: List.leftpad 4 '0' (Nat.toDigits 16 n)

/-- A character in a string, after the rules of the standard. -/
def quoteChar (c : Char) : List Char :=
  match Dict.get? shortEscapes c.toNat with
  | some e => ['\\', e]
  | none => if c.toNat < 0x20 then unicodeEscape c.toNat else [c]

/-- `QuoteJSONString` of ECMAScript. -/
def quoteJSONString (s : String) : String :=
  String.ofList (Char.ofNat 34 :: (s.toList.flatMap quoteChar ++ [Char.ofNat 34]))

/-- `Number::toString` of ECMAScript for an integer of magnitude below 2^53. -/
def numberToString (i : Int) : String :=
  if i < 0 then "-" ++ Nat.repr i.natAbs else Nat.repr i.natAbs

/-- The order of member names: by their code units. -/
def nameLe (a b : String) : Prop := Utf16.encode a.toList ≤ Utf16.encode b.toList

instance (a b : String) : Decidable (nameLe a b) :=
  inferInstanceAs (Decidable (Utf16.encode a.toList ≤ Utf16.encode b.toList))

mutual

/-- The serialization of a value without floats, written from the text of the standard:
members sorted by the UTF-16 units of their names. -/
def serialize : Json → String
  | .null => "null"
  | .bool b => if b then "true" else "false"
  | .int i => numberToString i
  | .float _ => ""
  | .str s => quoteJSONString s
  | .arr xs => "[" ++ ",".intercalate (serializeItems xs) ++ "]"
  | .obj xs =>
      "\x7b" ++ ",".intercalate
        (((serializeMembers xs).insertionSort fun p q => nameLe p.1 q.1).map fun p =>
          quoteJSONString p.1 ++ ":" ++ p.2) ++ "\x7d"

/-- The items of an array, one by one. -/
def serializeItems : List Json → List String
  | [] => []
  | x :: xs => serialize x :: serializeItems xs

/-- The members of an object with their names. -/
def serializeMembers : List (String × Json) → List (String × String)
  | [] => []
  | (k, x) :: xs => (k, serialize x) :: serializeMembers xs

end

mutual

/-- The values that the scheme is about here: no floats, integers of magnitude below
2^53, and names that occur once in their object. -/
def InScope : Json → Prop
  | .float _ => False
  | .int i => i.natAbs < 2 ^ 53
  | .arr xs => InScopeItems xs
  | .obj xs => (xs.map Prod.fst).Nodup ∧ InScopeFields xs
  | _ => True

/-- Every item is in the scope of the comparison. -/
def InScopeItems : List Json → Prop
  | [] => True
  | x :: xs => InScope x ∧ InScopeItems xs

def InScopeFields : List (String × Json) → Prop
  | [] => True
  | (_, x) :: xs => InScope x ∧ InScopeFields xs

end

mutual

/-- In no object are there two names that code points and code units order differently. -/
def NamesAgree : Json → Prop
  | .arr xs => NamesAgreeItems xs
  | .obj xs => (∀ f ∈ xs, ∀ g ∈ xs, ¬ Utf16.Inverted f.1.toList g.1.toList) ∧ NamesAgreeFields xs
  | _ => True

/-- In every item the two orders of names agree. -/
def NamesAgreeItems : List Json → Prop
  | [] => True
  | x :: xs => NamesAgree x ∧ NamesAgreeItems xs

def NamesAgreeFields : List (String × Json) → Prop
  | [] => True
  | (_, x) :: xs => NamesAgree x ∧ NamesAgreeFields xs

end

/-! ## Strings and numbers -/

private theorem quoteChar_small : ∀ n < 32,
    (escapeChar (Char.ofNat n)).toList = quoteChar (Char.ofNat n) := by
  decide +kernel

/-- A character is escaped as ECMAScript does. -/
theorem toList_escapeChar (c : Char) : (escapeChar c).toList = quoteChar c := by
  by_cases hSmall : c.toNat < 32
  · have h := quoteChar_small c.toNat hSmall
    rwa [Char.ofNat_toNat] at h
  · by_cases hQuote : c.toNat = 34
    · have hc : c = Char.ofNat 34 := by rw [← hQuote, Char.ofNat_toNat]
      rw [hc]
      decide +kernel
    · by_cases hBackslash : c.toNat = 92
      · have hc : c = Char.ofNat 92 := by rw [← hBackslash, Char.ofNat_toNat]
        rw [hc]
        decide +kernel
      · rw [Json.escapeChar_plain (by omega) hQuote hBackslash]
        have hNone : Dict.get? shortEscapes c.toNat = none := by
          unfold shortEscapes
          simp only [Dict.get?]
          split_ifs <;> first | omega | rfl
        unfold quoteChar
        rw [hNone]
        simp [hSmall]

/-- The standard quotes a string as the SDK does. -/
theorem quoteJSONString_eq (s : String) : quoteJSONString s = jsonString s := by
  rw [← String.toList_inj, Json.toList_jsonString]
  have hEscape : s.toList.flatMap quoteChar = Json.escapeText s.toList := by
    unfold Json.escapeText
    congr 1
    funext c
    exact (toList_escapeChar c).symm
  simp [quoteJSONString, Json.stringText, Json.quote, hEscape]

/-- The standard writes an integer as the SDK does. -/
theorem numberToString_eq (i : Int) : numberToString i = toString i := by
  cases i with
  | ofNat n => rfl
  | negSucc n =>
      unfold numberToString
      rw [if_pos (Int.negSucc_lt_zero n)]
      rfl

/-! ## The order of the members -/

mutual

/-- The value with the members of every object in the order of the scheme. -/
def unitOrdered : Json → Json
  | .arr xs => .arr (unitOrderedItems xs)
  | .obj xs => .obj ((unitOrderedFields xs).insertionSort fun p q => nameLe p.1 q.1)
  | j => j

def unitOrderedItems : List Json → List Json
  | [] => []
  | x :: xs => unitOrdered x :: unitOrderedItems xs

def unitOrderedFields : List (String × Json) → List (String × Json)
  | [] => []
  | (k, x) :: xs => (k, unitOrdered x) :: unitOrderedFields xs

end

theorem map_fst_unitOrderedFields (xs : List (String × Json)) :
    (unitOrderedFields xs).map Prod.fst = xs.map Prod.fst := by
  induction xs with
  | nil => rfl
  | cons x xs ih =>
      obtain ⟨k, v⟩ := x
      simp [unitOrderedFields, ih]

section Text

variable (text : FloatText)

mutual

/-- The serialization is the text of the ordered value as it stands, when the members have
been sorted by their units. -/
theorem toList_serialize : ∀ x : Json, Json.FloatFree x →
    (serialize x).toList = Json.print text (unitOrdered x)
  | .null, _ => rfl
  | .bool b, _ => by cases b <;> rfl
  | .int i, _ => congrArg String.toList (numberToString_eq i)
  | .str s, _ => by
      simp only [serialize, quoteJSONString_eq, Json.toList_jsonString, unitOrdered, Json.print]
  | .arr xs, h => Json.toList_list text _ _ (toList_serializeItems xs h)
  | .obj xs, h => by
      refine Json.toList_object text _ _ ?_
      rw [List.map_map]
      -- sorting the texts by name and sorting the values by name are the same
      have hSort : ((serializeMembers xs).insertionSort fun p q => nameLe p.1 q.1).map
            (fun p => (p.1, p.2.toList)) =
          ((unitOrderedFields xs).insertionSort fun p q => nameLe p.1 q.1).map
            (fun p => (p.1, Json.print text p.2)) := by
        rw [Json.map_sortByName nameLe String.toList, Json.map_sortByName nameLe (Json.print text),
          toList_serializeMembers xs h]
      have hTexts := congrArg (List.map fun p : String × List Char =>
        Json.stringText p.1 ++ ':' :: p.2) hSort
      have hEntry : Json.entryText text =
          fun p => Json.stringText p.1 ++ ':' :: Json.print text p.2 := rfl
      simpa [List.map_map, Function.comp_def, quoteJSONString_eq, Json.toList_jsonString,
        hEntry] using hTexts

theorem toList_serializeItems : ∀ xs : List Json, Json.FloatFreeItems xs →
    (serializeItems xs).map String.toList = (unitOrderedItems xs).map (Json.print text)
  | [], _ => rfl
  | x :: xs, h => by
      simp [serializeItems, unitOrderedItems, toList_serialize x h.1,
        toList_serializeItems xs h.2]

theorem toList_serializeMembers : ∀ xs : List (String × Json), Json.FloatFreeFields xs →
    (serializeMembers xs).map (fun p => (p.1, p.2.toList)) =
      (unitOrderedFields xs).map fun p => (p.1, Json.print text p.2)
  | [], _ => rfl
  | (k, x) :: xs, h => by
      simp [serializeMembers, unitOrderedFields, toList_serialize x h.1,
        toList_serializeMembers xs h.2]

end

end Text

mutual

/-- Values in scope hold no floats. -/
theorem InScope.floatFree : ∀ {x : Json}, InScope x → Json.FloatFree x
  | .null, _ => trivial
  | .bool _, _ => trivial
  | .int _, _ => trivial
  | .str _, _ => trivial
  | .arr _, h => floatFreeItems_of_inScope h
  | .obj _, h => floatFreeFields_of_inScope h.2

theorem floatFreeItems_of_inScope : ∀ {xs : List Json}, InScopeItems xs → Json.FloatFreeItems xs
  | [], _ => trivial
  | _ :: _, h => ⟨InScope.floatFree h.1, floatFreeItems_of_inScope h.2⟩

theorem floatFreeFields_of_inScope : ∀ {xs : List (String × Json)}, InScopeFields xs →
    Json.FloatFreeFields xs
  | [], _ => trivial
  | (_, _) :: _, h => ⟨InScope.floatFree h.1, floatFreeFields_of_inScope h.2⟩

end

mutual

/-- Ordering the names by their units brings no float into a value. -/
theorem floatFree_unitOrdered : ∀ {x : Json}, Json.FloatFree x → Json.FloatFree (unitOrdered x)
  | .null, _ => trivial
  | .bool _, _ => trivial
  | .int _, _ => trivial
  | .str _, _ => trivial
  | .arr xs, h => floatFree_unitOrderedItems xs h
  | .obj xs, h => by
      have hFields := floatFree_unitOrderedFields xs h
      simp only [unitOrdered, Json.FloatFree, Json.floatFreeFields_iff] at hFields ⊢
      exact fun f hf => hFields f ((List.mem_insertionSort _).1 hf)

theorem floatFree_unitOrderedItems : ∀ (xs : List Json), Json.FloatFreeItems xs →
    Json.FloatFreeItems (unitOrderedItems xs)
  | [], _ => trivial
  | _ :: xs, h => ⟨floatFree_unitOrdered h.1, floatFree_unitOrderedItems xs h.2⟩

theorem floatFree_unitOrderedFields : ∀ (xs : List (String × Json)), Json.FloatFreeFields xs →
    Json.FloatFreeFields (unitOrderedFields xs)
  | [], _ => trivial
  | (_, _) :: xs, h => ⟨floatFree_unitOrdered h.1, floatFree_unitOrderedFields xs h.2⟩

end

/-- For names that agree the two orders are one. -/
theorem nameLe_iff {a b : String} (h : ¬ Utf16.Inverted a.toList b.toList) :
    nameLe a b ↔ a ≤ b := by
  have hBack : ¬ Utf16.Inverted b.toList a.toList := fun hInv => h hInv.symm
  have hLt := (Utf16.lt_iff_encode_lt b.toList a.toList).2 hBack
  unfold nameLe
  rw [← not_lt, ← hLt]
  exact Iff.rfl

/-- Names that come in the same order by code points and by code units agree. -/
theorem not_inverted {a b : String} (h : a ≤ b) (h' : nameLe a b) :
    ¬ Utf16.Inverted a.toList b.toList := by
  have hLt : b.toList < a.toList ↔ Utf16.encode b.toList < Utf16.encode a.toList := by
    constructor
    · exact fun hc => absurd hc h
    · exact fun hc => absurd hc (not_lt.2 h')
  exact fun hInv => (Utf16.lt_iff_encode_lt b.toList a.toList).1 hLt hInv.symm

/-- Sorted in one order and in the other, two lists with the same names are the same
list only when the names agree. -/
theorem agree_of_sort_eq {xs ys : List (String × Json)}
    (h : (xs.insertionSort fun p q => p.1 ≤ q.1) =
      ys.insertionSort fun p q => nameLe p.1 q.1) :
    ∀ a ∈ xs.map Prod.fst, ∀ b ∈ xs.map Prod.fst, ¬ Utf16.Inverted a.toList b.toList := by
  have hPoints : (xs.insertionSort fun p q => p.1 ≤ q.1).Pairwise fun p q => p.1 ≤ q.1 := by
    have hTotal : Std.Total fun p q : String × Json => p.1 ≤ q.1 :=
      ⟨fun p q => String.le_total p.1 q.1⟩
    have hTrans : IsTrans (String × Json) fun p q => p.1 ≤ q.1 :=
      ⟨fun _ _ _ => String.le_trans⟩
    exact List.pairwise_insertionSort _ xs
  have hUnits : (ys.insertionSort fun p q => nameLe p.1 q.1).Pairwise
      fun p q => nameLe p.1 q.1 := by
    have hTotal : Std.Total fun p q : String × Json => nameLe p.1 q.1 :=
      ⟨fun _ _ => le_total _ _⟩
    have hTrans : IsTrans (String × Json) fun p q => nameLe p.1 q.1 :=
      ⟨fun _ _ _ => le_trans⟩
    exact List.pairwise_insertionSort _ ys
  rw [← h] at hUnits
  have hSymm : Std.Symm fun p q : String × Json => ¬ Utf16.Inverted p.1.toList q.1.toList :=
    ⟨fun _ _ hNot hInv => hNot hInv.symm⟩
  have hAgree : (xs.insertionSort fun p q => p.1 ≤ q.1).Pairwise
      fun p q => ¬ Utf16.Inverted p.1.toList q.1.toList :=
    (hPoints.and hUnits).imp fun hBoth => not_inverted hBoth.1 hBoth.2
  have hAll := List.Pairwise.forall_of_forall
    (fun p _ => not_inverted (String.le_refl p.1) (le_refl _)) hAgree
  intro a ha b hb
  obtain ⟨p, hp, rfl⟩ := List.mem_map.1 ha
  obtain ⟨q, hq, rfl⟩ := List.mem_map.1 hb
  exact hAll ((List.mem_insertionSort _).2 hp) ((List.mem_insertionSort _).2 hq)

/-- Lists with the same names, each once, that hold the same fields are the same. -/
theorem eq_of_perm_names {xs ys : List (String × Json)}
    (hNames : xs.map Prod.fst = ys.map Prod.fst) (hNodup : (xs.map Prod.fst).Nodup)
    (h : xs.Perm ys) : xs = ys := by
  induction xs generalizing ys with
  | nil => exact (List.nil_perm.1 h).symm
  | cons x xs ih =>
      cases ys with
      | nil => simp at hNames
      | cons y ys =>
          simp only [List.map_cons, List.cons.injEq] at hNames
          have hSame : x = y := by
            have hMem : y ∈ x :: xs := h.mem_iff.2 List.mem_cons_self
            exact List.inj_on_of_nodup_map hNodup List.mem_cons_self hMem hNames.1
          subst hSame
          rw [ih hNames.2 (List.nodup_cons.1 hNodup).2 ((List.perm_cons x).1 h)]

mutual

/-- **The two orders of the members** are one exactly when the names agree at every
level. -/
theorem ordered_eq_iff : ∀ {x : Json}, InScope x → (x.ordered = unitOrdered x ↔ NamesAgree x)
  | .null, _ => by simp [Json.ordered, unitOrdered, NamesAgree]
  | .bool _, _ => by simp [Json.ordered, unitOrdered, NamesAgree]
  | .int _, _ => by simp [Json.ordered, unitOrdered, NamesAgree]
  | .str _, _ => by simp [Json.ordered, unitOrdered, NamesAgree]
  | .arr xs, h => by
      simp only [Json.ordered, unitOrdered, NamesAgree, Json.arr.injEq]
      exact orderedItems_eq_iff h
  | .obj xs, h => by
      have hNames : (Json.orderedFields xs).map Prod.fst = (unitOrderedFields xs).map Prod.fst := by
        rw [Json.map_fst_orderedFields, map_fst_unitOrderedFields]
      have hNodup : ((Json.orderedFields xs).map Prod.fst).Nodup := by
        rw [Json.map_fst_orderedFields]
        exact h.1
      have hFields := orderedFields_eq_iff h.2
      simp only [Json.ordered, unitOrdered, NamesAgree, Json.obj.injEq]
      constructor
      · intro hSort
        have hPoints := List.perm_insertionSort (fun p q : String × Json => p.1 ≤ q.1)
          (Json.orderedFields xs)
        have hUnits := List.perm_insertionSort (fun p q : String × Json => nameLe p.1 q.1)
          (unitOrderedFields xs)
        rw [← hSort] at hUnits
        have hPerm := hPoints.symm.trans hUnits
        refine ⟨fun f hf g hg => ?_, hFields.1 (eq_of_perm_names hNames hNodup hPerm)⟩
        have hAgree := agree_of_sort_eq hSort
        rw [Json.map_fst_orderedFields] at hAgree
        exact hAgree f.1 (List.mem_map_of_mem hf) g.1 (List.mem_map_of_mem hg)
      · rintro ⟨hAgree, hRest⟩
        rw [hFields.2 hRest]
        have hMem : ∀ f ∈ unitOrderedFields xs, f.1 ∈ xs.map Prod.fst := by
          intro f hf
          rw [← map_fst_unitOrderedFields]
          exact List.mem_map_of_mem hf
        have hOrders : ∀ f ∈ unitOrderedFields xs, ∀ g ∈ unitOrderedFields xs,
            (f.1 ≤ g.1 ↔ nameLe f.1 g.1) := by
          intro f hf g hg
          obtain ⟨f', hf', hName⟩ := List.mem_map.1 (hMem f hf)
          obtain ⟨g', hg', hName'⟩ := List.mem_map.1 (hMem g hg)
          rw [← hName, ← hName']
          exact (nameLe_iff (hAgree f' hf' g' hg')).symm
        have hSort := List.map_insertionSort (r := fun p q : String × Json => p.1 ≤ q.1)
          (s := fun p q : String × Json => nameLe p.1 q.1) id _ hOrders
        simpa using hSort

/-- The two orders agree on a list of items exactly when they do on each of them. -/
theorem orderedItems_eq_iff : ∀ {xs : List Json}, InScopeItems xs →
    (Json.orderedItems xs = unitOrderedItems xs ↔ NamesAgreeItems xs)
  | [], _ => by simp [Json.orderedItems, unitOrderedItems, NamesAgreeItems]
  | x :: xs, h => by
      simp only [Json.orderedItems, unitOrderedItems, NamesAgreeItems, List.cons.injEq,
        ordered_eq_iff h.1, orderedItems_eq_iff h.2]

/-- The two orders agree on the values of fields exactly when they do on each of them. -/
theorem orderedFields_eq_iff : ∀ {xs : List (String × Json)}, InScopeFields xs →
    (Json.orderedFields xs = unitOrderedFields xs ↔ NamesAgreeFields xs)
  | [], _ => by simp [Json.orderedFields, unitOrderedFields, NamesAgreeFields]
  | (k, x) :: xs, h => by
      simp only [Json.orderedFields, unitOrderedFields, NamesAgreeFields, List.cons.injEq,
        Prod.mk.injEq, true_and, ordered_eq_iff h.1, orderedFields_eq_iff h.2]

end

end Rfc8785

/-- **Canonicalization.**  The canonical text is the RFC 8785 serialization exactly when the
members of every object have the same order by characters as by UTF-16 units, which a name
with a surrogate pair can break. -/
theorem jcsCanonicalize_is_rfc8785 (text : FloatText) {value : Json}
    (h : Rfc8785.InScope value) :
    text.jcsCanonicalize value = Rfc8785.serialize value ↔ Rfc8785.NamesAgree value := by
  rw [← Rfc8785.ordered_eq_iff h, ← String.toList_inj, Json.toList_jcsCanonicalize,
    Rfc8785.toList_serialize text value h.floatFree]
  constructor
  · intro hText
    have hEnd : Json.NoDigit [] := fun c hc => by cases hc
    have hAppend : Json.print text value.ordered ++ [] =
        Json.print text (Rfc8785.unitOrdered value) ++ [] := by rw [hText]
    exact (Json.print_append_inj text h.floatFree.ordered
      (Rfc8785.floatFree_unitOrdered h.floatFree) hEnd hEnd hAppend).1
  · exact fun hOrder => congrArg (Json.print text) hOrder

namespace Sample

/-- Floats are not printed below. -/
def noFloats : FloatText where
  repr _ := ""
  ryu _ := ""

/-- A name from the private use area, and one above `U+FFFF`. -/
def privateName : String := String.singleton (Char.ofNat 0xE000)

def astralName : String := String.singleton (Char.ofNat 0x10000)

def invertedNames : Json := .obj [(privateName, .int 1), (astralName, .int 2)]

end Sample

/-- The member above `U+FFFF` comes first in the RFC and last in the code. -/
theorem inverted_names_not_rfc8785 :
    Rfc8785.InScope Sample.invertedNames ∧
      Sample.noFloats.jcsCanonicalize Sample.invertedNames ≠
        Rfc8785.serialize Sample.invertedNames := by
  have hOne : Rfc8785.InScope (.int 1) := by
    unfold Rfc8785.InScope
    decide
  have hTwo : Rfc8785.InScope (.int 2) := by
    unfold Rfc8785.InScope
    decide
  exact ⟨⟨by decide, hOne, hTwo, trivial⟩, by decide +kernel⟩

theorem jcsCanonicalize_is_rfc8785_sample :
    Sample.noFloats.jcsCanonicalize (.obj [("b", .arr [.null, .str "\n"]), ("a", .bool true)]) =
      Rfc8785.serialize (.obj [("b", .arr [.null, .str "\n"]), ("a", .bool true)]) := by
  have hScope : Rfc8785.InScope (.obj [("b", .arr [.null, .str "\n"]), ("a", .bool true)]) :=
    ⟨by decide, ⟨trivial, trivial, trivial⟩, trivial, trivial⟩
  exact (jcsCanonicalize_is_rfc8785 Sample.noFloats hScope).2
    ⟨by decide, ⟨trivial, trivial, trivial⟩, trivial, trivial⟩

end AgentShield.Sdk
