import ModelServing.Json.Printer
import ModelServing.Json.Reader
import ModelServing.Proofs.Json.Arranged
import ModelServing.Proofs.Text.Digits

/-!
# Values read back from their text

What is written of a value is read back as that value, its members sorted by name.

* `Json.Writable` are the values for which this is so: whole numbers of 64 bits, strings of any kind, and arrays and
  objects that are not too deep inside each other;
* `Reader.text_quote` and `Reader.number_toDigits` are about strings and numbers, `Reader.reads_of_scalar` about all
  values without parts;
* `Reader.items_intercalate` and `Reader.members_intercalate` go through a list of parts, each of which `Reads`;
* `Reader.reads_compact` puts them together by induction on the value, and `Json.parse?_compact` is the result.
-/

namespace ModelServing.Json

namespace Reader

open Text

/-! ### strings -/

theorem hexDigit_hexChar {n : Nat} (h : n < 16) : hexDigit (hexChar n) = .ok n := by
  revert n
  decide

/-- A character below the blank, in the four digits of its escape. -/
theorem unicode_control {c : Char} (h : c.toNat < 0x20) (r : List Char) :
    unicode ('0' :: '0' :: hexChar (c.toNat / 16) :: hexChar (c.toNat % 16) :: r) = .ok (some c, r) := by
  have zero : hexDigit '0' = .ok 0 := rfl
  have value : hex4 ('0' :: '0' :: hexChar (c.toNat / 16) :: hexChar (c.toNat % 16) :: r) = .ok (c.toNat, r) := by
    simp only [hex4, zero, hexDigit_hexChar (show c.toNat / 16 < 16 by omega),
      hexDigit_hexChar (show c.toNat % 16 < 16 by omega), bind, Except.bind,
      Except.ok.injEq, Prod.mk.injEq, and_true]
    omega
  simp only [unicode, value, bind, Except.bind]
  rw [if_neg (by omega), if_neg (by omega), Char.ofNat_toNat]

/-- A written character is read in one step. -/
theorem string_escapeChar (c : Char) (fuel : Nat) (acc r : List Char) :
    string (fuel + 1) (some acc) (escapeChar c ++ r) = string fuel (some (c :: acc)) r := by
  unfold escapeChar
  split
  case h_8 =>
    rename_i quote backslash _ _ _ _ _
    split
    · rename_i control
      simp only [string, List.cons_append, List.nil_append, unicode_control control]
      rfl
    · rename_i printed
      simp only [string, List.cons_append, List.nil_append, if_neg printed, if_neg quote, if_neg backslash]
      rfl
  all_goals rfl

theorem string_flatMap (cs : List Char) {fuel : Nat} (h : cs.length < fuel) (acc r : List Char) :
    string fuel (some acc) (cs.flatMap escapeChar ++ '"' :: r) = .ok (some (String.ofList (acc.reverse ++ cs)), r) := by
  induction cs generalizing fuel acc with
  | nil =>
    obtain ⟨fuel, rfl⟩ := Nat.exists_eq_succ_of_ne_zero (show fuel ≠ 0 by omega)
    simp [string]
  | cons c cs ih =>
    rw [List.length_cons] at h
    obtain ⟨fuel, rfl⟩ := Nat.exists_eq_succ_of_ne_zero (show fuel ≠ 0 by omega)
    rw [List.flatMap_cons, List.append_assoc, string_escapeChar, ih (by omega)]
    simp

theorem length_escapeChar_pos (c : Char) : 0 < (escapeChar c).length := by
  unfold escapeChar
  split
  case h_8 => split <;> exact Nat.zero_lt_succ _
  all_goals exact Nat.zero_lt_succ _

theorem length_le_length_flatMap (cs : List Char) : cs.length ≤ (cs.flatMap escapeChar).length := by
  induction cs with
  | nil => simp
  | cons c cs ih =>
    have := length_escapeChar_pos c
    rw [List.flatMap_cons, List.length_append, List.length_cons]
    omega

theorem text_quote (s : String) (r : List Char) : text (s.toList.flatMap escapeChar ++ '"' :: r) = .ok (some s, r) := by
  have := length_le_length_flatMap s.toList
  rw [text, string_flatMap _ (by rw [List.length_append]; omega)]
  simp

/-! ### numbers -/

/-- Nothing comes next with which a number could go on. -/
def Ends (r : List Char) : Prop := ∀ c ∈ r.head?, c.isDigit = false ∧ c ≠ '.' ∧ c ≠ 'e' ∧ c ≠ 'E'

/-- A whole number of 64 bits is read from its digits. -/
theorem number_toDigits {negative : Bool} {n : Nat} {r : List Char} (ends : Ends r)
    (fits : if negative then n ≤ 9223372036854775808 ∧ n ≠ 0 else n < UInt64.size) :
    number negative (Nat.toDigits 10 n ++ r) = .ok (.int (if negative then -(n : Int) else n), r) := by
  have stops : Stops r := fun c hc => (ends c hc).1
  have split : digits (Nat.toDigits 10 n ++ r) = (Nat.toDigits 10 n, r) := by
    rw [digits, (digits_toDigits n).takeWhile_append stops, (digits_toDigits n).dropWhile_append stops]
  have leading : ¬ ((Nat.toDigits 10 n).head? = some '0' ∧ 1 < (Nat.toDigits 10 n).length) := by
    rintro ⟨zero, long⟩
    obtain rfl : n = 0 := by_contra fun h => head?_toDigits_ne_zero h zero
    exact absurd long (by decide)
  unfold number
  simp only [split, if_neg Nat.toDigits_ne_nil, if_neg leading, natOf_toDigits]
  cases r with
  | nil => simp [fits]
  | cons c r =>
    obtain ⟨-, point, small, capital⟩ := ends c rfl
    simp [point, small, capital, fits]

/-! ### what a value starts with -/

/-- A character that is neither blank nor a closing bracket or brace. -/
def Starts (c : Char) : Prop := ¬ (c = ' ' ∨ c = '\n' ∨ c = '\t' ∨ c = '\r') ∧ c ≠ ']' ∧ c ≠ '\x7d'

instance (c : Char) : Decidable (Starts c) := by unfold Starts; infer_instance

theorem starts_of_isDigit {c : Char} (h : c.isDigit = true) : Starts c := by
  refine ⟨?_, ?_, ?_⟩
  · rintro (rfl | rfl | rfl | rfl) <;> exact absurd h (by decide)
  · rintro rfl
    exact absurd h (by decide)
  · rintro rfl
    exact absurd h (by decide)

theorem Starts.skipBlank {c : Char} (h : Starts c) (r : List Char) : skipBlank (c :: r) = c :: r := by
  rw [Reader.skipBlank, if_neg h.1]

/-- `cs` is the text of `j`, whatever stands behind it, inside `depth` more arrays and objects. -/
structure Reads (depth : Nat) (cs : List Char) (j : Json) : Prop where
  starts : ∃ c r, cs = c :: r ∧ Starts c
  value : ∀ {fuel : Nat} {r : List Char}, 2 * cs.length ≤ fuel → Ends r → value fuel depth (cs ++ r) = .ok (j, r)

/-! ### values without parts -/

theorem reads_of_scalar {depth : Nat} {c : Char} {cs : List Char} {j : Json} (hc : Starts c) (array : c ≠ '[')
    (object : c ≠ '\x7b') (h : ∀ r, Ends r → scalar (c :: cs ++ r) = .ok (j, r)) : Reads depth (c :: cs) j where
  starts := ⟨c, cs, rfl, hc⟩
  value {fuel r} enough ends := by
    rw [List.length_cons] at enough
    obtain ⟨fuel, rfl⟩ := Nat.exists_eq_succ_of_ne_zero (show fuel ≠ 0 by omega)
    rw [value, List.cons_append, hc.skipBlank]
    split
    · cases ‹c :: _ = _›
      exact absurd rfl array
    · cases ‹c :: _ = _›
      exact absurd rfl object
    · exact h r ends

theorem scalar_of_isDigit {c : Char} (h : c.isDigit = true) (r : List Char) :
    scalar (c :: r) = number false (c :: r) := by
  unfold scalar
  split
  case h_6 => rfl
  all_goals
    cases ‹c :: r = _›
    exact absurd h (by decide)

theorem reads_null (depth : Nat) : Reads depth "null".toList .null :=
  reads_of_scalar (by decide) (by decide) (by decide) fun _ _ => rfl

theorem reads_bool (depth : Nat) (b : Bool) : Reads depth (if b then "true" else "false").toList (.bool b) := by
  cases b
  · exact reads_of_scalar (by decide) (by decide) (by decide) fun _ _ => rfl
  · exact reads_of_scalar (by decide) (by decide) (by decide) fun _ _ => rfl

theorem toList_quote (s : String) : (quote s).toList = '"' :: (s.toList.flatMap escapeChar ++ ['"']) := by
  rw [quote, String.toList_ofList, List.cons_append]

theorem reads_str (depth : Nat) (s : String) : Reads depth (quote s).toList (.str s) := by
  rw [toList_quote]
  refine reads_of_scalar (by decide) (by decide) (by decide) fun r _ => ?_
  simp only [List.cons_append, List.append_assoc, List.nil_append, scalar, text_quote]
  rfl

theorem toList_toString (i : Int) :
    (toString i).toList = if 0 ≤ i then Nat.toDigits 10 i.toNat else '-' :: Nat.toDigits 10 (-i).toNat := by
  rw [Int.toString_eq_repr, Int.repr_eq_if]
  split
  · exact Nat.toList_repr
  · simp [Nat.toList_repr]

theorem reads_int (depth : Nat) {i : Int} (least : -9223372036854775808 ≤ i) (most : i < 18446744073709551616) :
    Reads depth (toString i).toList (.int i) := by
  rw [toList_toString]
  split
  · rename_i natural
    obtain ⟨c, ds, hc⟩ := List.exists_cons_of_ne_nil (Nat.toDigits_ne_nil (b := 10) (n := i.toNat))
    have isDigit : c.isDigit = true := digits_toDigits i.toNat c (by simp [hc])
    rw [hc]
    refine reads_of_scalar (starts_of_isDigit isDigit) ?_ ?_ fun r ends => ?_
    · rintro rfl
      exact absurd isDigit (by decide)
    · rintro rfl
      exact absurd isDigit (by decide)
    · rw [List.cons_append, scalar_of_isDigit isDigit, ← List.cons_append, ← hc, number_toDigits ends]
      · simp [natural]
      · simp [UInt64.size]; omega
  · refine reads_of_scalar (by decide) (by decide) (by decide) fun r ends => ?_
    show number true (Nat.toDigits 10 (-i).toNat ++ r) = _
    rw [number_toDigits ends]
    · simp; omega
    · simp; omega

/-! ### arrays and objects -/

theorem ends_comma (r : List Char) : Ends (',' :: r) := by simp [Ends]

theorem ends_bracket (r : List Char) : Ends (']' :: r) := by simp [Ends]

theorem ends_brace (r : List Char) : Ends ('\x7d' :: r) := by simp [Ends]

/-- The items of an array, each of which reads. -/
theorem items_intercalate {depth : Nat} {l : List (List Char × Json)} (some : l ≠ [])
    (h : ∀ e ∈ l, Reads depth e.1 e.2) {fuel : Nat} (r : List Char)
    (enough : 2 * ([','].intercalate (l.map Prod.fst)).length + 1 ≤ fuel) :
    items fuel depth ([','].intercalate (l.map Prod.fst) ++ ']' :: r) = .ok (l.map Prod.snd, r) := by
  obtain ⟨fuel, rfl⟩ := Nat.exists_eq_succ_of_ne_zero (show fuel ≠ 0 by omega)
  induction l generalizing fuel with
  | nil => exact absurd rfl some
  | cons e l ih =>
    have first := h e (by simp)
    cases l with
    | nil =>
      rw [List.map_singleton, List.intercalate_singleton] at enough ⊢
      rw [items, first.value (show 2 * e.1.length ≤ fuel by omega) (ends_bracket r)]
      rfl
    | cons e' l =>
      rw [List.map_cons, List.map_cons, List.intercalate_cons_cons] at enough ⊢
      simp only [List.length_append, List.length_singleton] at enough
      obtain ⟨fuel, rfl⟩ := Nat.exists_eq_succ_of_ne_zero (show fuel ≠ 0 by omega)
      have rest := ih (by simp) (fun e he => h e (by simp [he])) fuel (by rw [List.map_cons]; omega)
      rw [List.map_cons] at rest
      rw [items, List.append_assoc, List.append_assoc, List.singleton_append,
        first.value (show 2 * e.1.length ≤ fuel + 1 by omega) (ends_comma _)]
      show (items (fuel + 1) depth _).map _ = _
      rw [rest]
      rfl

theorem name_quote (s : String) (r : List Char) : name ((quote s).toList ++ ':' :: r) = .ok (some s, r) := by
  rw [toList_quote, List.cons_append, name, Starts.skipBlank (by decide), List.append_assoc, List.singleton_append]
  simp only [text_quote, bind, Except.bind, Starts.skipBlank (show Starts ':' by decide)]

/-- The text of a member. -/
def memberText (name : String) (cs : List Char) : List Char := (quote name).toList ++ ':' :: cs

theorem length_memberText (name : String) (cs : List Char) :
    (memberText name cs).length = (quote name).toList.length + 1 + cs.length := by
  rw [memberText, List.length_append, List.length_cons]
  omega

/-- The members of an object, the value of each of which reads. -/
theorem members_intercalate {depth : Nat} {l : List (String × List Char × Json)} (some : l ≠ [])
    (h : ∀ m ∈ l, Reads depth m.2.1 m.2.2) {fuel : Nat} (r : List Char)
    (enough : 2 * ([','].intercalate (l.map fun m => memberText m.1 m.2.1)).length + 1 ≤ fuel) :
    members fuel depth ([','].intercalate (l.map fun m => memberText m.1 m.2.1) ++ '\x7d' :: r) =
      .ok (l.map fun m => (m.1, m.2.2), r) := by
  obtain ⟨fuel, rfl⟩ := Nat.exists_eq_succ_of_ne_zero (show fuel ≠ 0 by omega)
  induction l generalizing fuel with
  | nil => exact absurd rfl some
  | cons m l ih =>
    have first := h m (by simp)
    cases l with
    | nil =>
      rw [List.map_singleton, List.intercalate_singleton] at enough ⊢
      rw [length_memberText] at enough
      rw [members, memberText, List.append_assoc, List.cons_append, name_quote]
      simp only [Except.bind, first.value (show 2 * m.2.1.length ≤ fuel by omega) (ends_brace r)]
      rfl
    | cons m' l =>
      rw [List.map_cons, List.map_cons, List.intercalate_cons_cons] at enough ⊢
      simp only [List.length_append, List.length_singleton, length_memberText] at enough
      obtain ⟨fuel, rfl⟩ := Nat.exists_eq_succ_of_ne_zero (show fuel ≠ 0 by omega)
      have rest := ih (by simp) (fun e he => h e (by simp [he])) fuel (by rw [List.map_cons]; omega)
      rw [List.map_cons] at rest
      rw [members, List.append_assoc, List.append_assoc, List.singleton_append, memberText, List.append_assoc,
        List.cons_append, name_quote]
      simp only [Except.bind, first.value (show 2 * m.2.1.length ≤ fuel + 1 by omega) (ends_comma _)]
      show (members (fuel + 1) depth _).map _ = _
      rw [rest]
      rfl

theorem starts_intercalate {l : List (List Char)} (some : l ≠ []) (h : ∀ cs ∈ l, ∃ c r, cs = c :: r ∧ Starts c) :
    ∃ c r, [','].intercalate l = c :: r ∧ Starts c := by
  obtain ⟨cs, l, rfl⟩ := List.exists_cons_of_ne_nil some
  obtain ⟨c, r, rfl, hc⟩ := h cs (by simp)
  cases l with
  | nil => exact ⟨c, r, List.intercalate_singleton, hc⟩
  | cons cs' l => exact ⟨c, _, by rw [List.intercalate_cons_cons, List.append_assoc, List.cons_append], hc⟩

theorem reads_arr {depth : Nat} {l : List (List Char × Json)} (h : ∀ e ∈ l, Reads depth e.1 e.2) :
    Reads (depth + 1) ('[' :: ([','].intercalate (l.map Prod.fst) ++ [']'])) (.arr (l.map Prod.snd)) where
  starts := ⟨_, _, rfl, by decide⟩
  value {fuel r} enough _ := by
    rw [List.length_cons, List.length_append, List.length_singleton] at enough
    obtain ⟨fuel, rfl⟩ := Nat.exists_eq_succ_of_ne_zero (show fuel ≠ 0 by omega)
    rw [value, List.cons_append, List.append_assoc, List.singleton_append, Starts.skipBlank (by decide)]
    cases l with
    | nil => rfl
    | cons e l =>
      have body := items_intercalate (List.cons_ne_nil e l) h r (show _ ≤ fuel by omega)
      obtain ⟨c, cs, hc, starts⟩ := starts_intercalate (l := (e :: l).map Prod.fst) (by simp) fun cs hcs => by
        obtain ⟨e, he, rfl⟩ := List.mem_map.1 hcs
        exact (h e he).starts
      simp only [hc, List.cons_append, starts.skipBlank] at body ⊢
      split
      · cases ‹c :: _ = _›
        exact absurd rfl starts.2.1
      · rw [body]
        rfl

theorem object_map (l : List (String × Json)) : object (l.map fun m => (some m.1, m.2)) = .obj l := by
  have named : (l.map fun m => (some m.1, m.2)).mapM (fun m => m.1.map (·, m.2)) = some l := by
    rw [List.mapM_map]
    exact (mapM_eq_some_map (g := id) fun _ _ => rfl).trans (by rw [List.map_id])
  simp only [object, named]

theorem reads_obj {depth : Nat} {l : List (String × List Char × Json)} (h : ∀ m ∈ l, Reads depth m.2.1 m.2.2) :
    Reads (depth + 1) ('\x7b' :: ([','].intercalate (l.map fun m => memberText m.1 m.2.1) ++ ['\x7d']))
      (.obj (l.map fun m => (m.1, m.2.2))) where
  starts := ⟨_, _, rfl, by decide⟩
  value {fuel r} enough _ := by
    rw [List.length_cons, List.length_append, List.length_singleton] at enough
    obtain ⟨fuel, rfl⟩ := Nat.exists_eq_succ_of_ne_zero (show fuel ≠ 0 by omega)
    rw [value, List.cons_append, List.append_assoc, List.singleton_append, Starts.skipBlank (by decide)]
    cases l with
    | nil => rfl
    | cons m l =>
      have body := members_intercalate (List.cons_ne_nil m l) h r (show _ ≤ fuel by omega)
      obtain ⟨c, cs, hc, starts⟩ := starts_intercalate (l := (m :: l).map fun m => memberText m.1 m.2.1) (by simp)
        fun cs hcs => by
          obtain ⟨m, -, rfl⟩ := List.mem_map.1 hcs
          exact ⟨'"', _, by rw [memberText, toList_quote, List.cons_append], by decide⟩
      simp only [hc, List.cons_append, starts.skipBlank] at body ⊢
      split
      · cases ‹c :: _ = _›
        exact absurd rfl starts.2.2
      · rw [body]
        have named := object_map ((m :: l).map fun m => (m.1, m.2.2))
        rw [List.map_map] at named
        exact congrArg (fun j => Except.ok (j, r)) named

end Reader

/-! ### all values -/

/-- A value without fractions whose whole numbers have 64 bits, with at most `depth` arrays and objects inside each
other. -/
inductive Writable : Nat → Json → Prop
  | null (depth : Nat) : Writable depth .null
  | bool (depth : Nat) (b : Bool) : Writable depth (.bool b)
  | int (depth : Nat) {i : Int} (least : -9223372036854775808 ≤ i) (most : i < 18446744073709551616) :
      Writable depth (.int i)
  | str (depth : Nat) (s : String) : Writable depth (.str s)
  | arr {depth : Nat} {items : List Json} (h : ∀ x ∈ items, Writable depth x) : Writable (depth + 1) (.arr items)
  | obj {depth : Nat} {members : List (String × Json)} (h : ∀ m ∈ members, Writable depth m.2) :
      Writable (depth + 1) (.obj members)

theorem compactItems_eq_map (items : List Json) : compactItems items = items.map compact := by
  induction items with
  | nil => rfl
  | cons x xs ih => rw [compactItems, ih, List.map_cons]

theorem compactMembers_eq_map (members : List (String × Json)) :
    compactMembers members = members.map fun m => (m.1, compact m.2) := by
  induction members with
  | nil => rfl
  | cons m ms ih => rw [compactMembers, ih, List.map_cons]

theorem toList_compact_arr (items : List Json) :
    (arr items).compact.toList = '[' :: ([','].intercalate (items.map fun x => x.compact.toList) ++ [']']) := by
  simp [compact, compactItems_eq_map, Function.comp_def]

theorem toList_compact_obj (members : List (String × Json)) :
    (obj members).compact.toList = '\x7b' :: ([','].intercalate
      ((Arrangement.byName.apply members).map fun m => Reader.memberText m.1 m.2.compact.toList) ++ ['\x7d']) := by
  have sorted : (compactMembers members).mergeSort (fun a b => decide (a.1 ≤ b.1)) =
      (Arrangement.byName.apply members).map fun m => (m.1, m.2.compact) := by
    rw [compactMembers_eq_map]
    exact Arrangement.byName.map compact members
  simp [compact, sorted, Reader.memberText, Function.comp_def]

/-- **Every value is read from its text.** -/
theorem reads_compact {depth : Nat} {j : Json} (h : Writable depth j) :
    Reader.Reads depth j.compact.toList (j.arranged .byName) := by
  induction h with
  | null depth => exact Reader.reads_null depth
  | bool depth b => exact Reader.reads_bool depth b
  | int depth least most => exact Reader.reads_int depth least most
  | str depth s => exact Reader.reads_str depth s
  | @arr depth items h ih =>
    have := Reader.reads_arr (l := items.map fun x => (x.compact.toList, x.arranged .byName)) (by
      intro e he
      obtain ⟨x, hx, rfl⟩ := List.mem_map.1 he
      exact ih x hx)
    rw [toList_compact_arr, arranged_arr]
    rwa [List.map_map, List.map_map] at this
  | @obj depth members h ih =>
    have := Reader.reads_obj
      (l := (Arrangement.byName.apply members).map fun m => (m.1, m.2.compact.toList, m.2.arranged .byName)) (by
        intro e he
        obtain ⟨m, hm, rfl⟩ := List.mem_map.1 he
        exact ih m ((Arrangement.byName.perm members).mem_iff.1 hm))
    rw [toList_compact_obj, arranged_obj, Arrangement.byName.map]
    rwa [List.map_map, List.map_map] at this

/-- **What is written is read back**, its members sorted by name. -/
theorem parse?_compact {j : Json} (h : Writable 127 j) : parse? j.compact = some (j.arranged .byName) := by
  have nothing : Reader.Ends [] := by simp [Reader.Ends]
  have read := (reads_compact h).value (show _ ≤ 2 * j.compact.toList.length + 2 by omega) nothing
  rw [List.append_nil] at read
  simp only [parse?, parse, read, Except.bind]
  rfl

end ModelServing.Json
