import HouseStyle.Json.Basic
import Mathlib.Data.List.Basic

/-!
Objects with optional fields. An object is written from a row of fields, each a key together with
what is written for it, if anything. Its keys are those of the fields that are there, a field is
found under its key, and two rows with the same keys and the same members are the same. A value is
clean when neither it nor anything in it is null.
-/

namespace HouseStyle.Json

def keys : Json → List String
  | object members => members.map Prod.fst
  | _ => []

def filled (slots : List (String × Bool)) : List String :=
  (slots.filter Prod.snd).map Prod.fst

theorem filled_append (left right : List (String × Bool)) :
    filled (left ++ right) = filled left ++ filled right := by
  rw [filled, List.filter_append, List.map_append, filled, filled]

theorem keys_member (key : String) (value : Option Json) :
    (member key value).map Prod.fst = filled [(key, value.isSome)] := by
  cases value <;> rfl

theorem mem_member_iff (key : String) (value : Option Json) (found : String × Json) :
    found ∈ member key value ↔ found.1 = key ∧ value = some found.2 := by
  cases value with
  | none => simp [member]
  | some present => simp [member, Prod.ext_iff, eq_comm (a := present)]

def written (fields : List (String × Option Json)) : List (String × Json) :=
  fields.flatMap fun field => member field.1 field.2

def slot (field : String × Option Json) : String × Bool := (field.1, field.2.isSome)

theorem written_append (left right : List (String × Option Json)) :
    written (left ++ right) = written left ++ written right := List.flatMap_append

theorem keys_written (fields : List (String × Option Json)) :
    (written fields).map Prod.fst = filled (fields.map slot) := by
  induction fields with
  | nil => rfl
  | cons field rest ih =>
    have first : [slot field] ++ rest.map slot = (field :: rest).map slot := rfl
    rw [← first, filled_append, slot, ← keys_member, ← ih, ← List.map_append]
    rfl

theorem mem_written_key (fields : List (String × Option Json)) (entry : String × Json)
    (held : entry ∈ written fields) : entry.1 ∈ fields.map Prod.fst := by
  obtain ⟨field, listed, inside⟩ := List.mem_flatMap.mp held
  rw [((mem_member_iff _ _ _).mp inside).1]
  exact List.mem_map_of_mem listed

theorem lookup_eq_none_of_apart (members : List (String × Json)) (key : String)
    (apart : ∀ entry ∈ members, entry.1 ≠ key) : members.lookup key = none := by
  rw [List.lookup_eq_none_iff]
  intro entry held
  exact bne_iff_ne.mpr (apart entry held).symm

theorem lookup_written (fields : List (String × Option Json)) (key : String) (value : Option Json)
    (distinct : (fields.map Prod.fst).Nodup) (field : (key, value) ∈ fields) :
    (written fields).lookup key = value := by
  induction fields with
  | nil => contradiction
  | cons first rest ih =>
    obtain ⟨fresh, later⟩ := List.nodup_cons.mp distinct
    have apart : ∀ entry ∈ written rest, entry.1 ≠ first.1 := by
      intro entry held same
      exact fresh (same ▸ mem_written_key rest entry held)
    rw [written, List.flatMap_cons, ← written, List.lookup_append]
    rcases List.mem_cons.mp field with rfl | listed
    · cases value with
      | some present => simp [member]
      | none =>
        rw [member, List.lookup_nil, Option.none_or]
        exact lookup_eq_none_of_apart _ _ apart
    · have known : key ∈ rest.map Prod.fst := List.mem_map_of_mem (f := Prod.fst) listed
      have other : key ≠ first.1 := fun same => fresh (same ▸ known)
      have silent : (member first.1 first.2).lookup key = none := by
        apply lookup_eq_none_of_apart
        intro entry held
        rw [((mem_member_iff _ _ _).mp held).1]
        exact other.symm
      rw [silent, Option.none_or, ih later listed]

theorem written_injective (left right : List (String × Option Json))
    (keys : left.map Prod.fst = right.map Prod.fst) (distinct : (left.map Prod.fst).Nodup)
    (same : written left = written right) : left = right := by
  induction left generalizing right with
  | nil => exact (List.map_eq_nil_iff.mp keys.symm).symm
  | cons field rest ih =>
    cases right with
    | nil => contradiction
    | cons other others =>
      obtain ⟨key, value⟩ := field
      obtain ⟨_, otherValue⟩ := other
      simp only [List.map_cons, List.cons.injEq] at keys
      obtain ⟨rfl, keys⟩ := keys
      obtain ⟨fresh, later⟩ := List.nodup_cons.mp distinct
      -- A member under the first key is not among those of the fields behind it.
      have apart : ∀ (fields : List (String × Option Json)) (present : Json) (more : List _),
          fields.map Prod.fst = rest.map Prod.fst → written fields ≠ (key, present) :: more := by
        intro fields present more behind begins
        have held := mem_written_key fields (key, present) (begins ▸ List.mem_cons_self)
        exact fresh (behind ▸ held)
      simp only [written, List.flatMap_cons] at same
      cases value with
      | none =>
        cases otherValue with
        | none => rw [ih others keys later same]
        | some present => exact absurd same (apart rest present _ rfl)
      | some present =>
        cases otherValue with
        | none => exact absurd same.symm (apart others present _ keys.symm)
        | some another =>
          obtain ⟨first, behind⟩ := List.cons.inj same
          rw [ih others keys later behind, (Prod.mk.inj first).2]

/-- A value and everything that it holds, at any depth. -/
inductive Within (inner : Json) : Json → Prop where
  | self : Within inner inner
  | item (items : List Json) (holder : Json) (held : holder ∈ items)
      (deeper : Within inner holder) : Within inner (list items)
  | member (members : List (String × Json)) (entry : String × Json) (held : entry ∈ members)
      (deeper : Within inner entry.2) : Within inner (object members)

def Clean (value : Json) : Prop := ¬Within null value

theorem clean_text (content : String) : Clean (text content) := by rintro ⟨⟩

theorem clean_integer (number : Int) : Clean (integer number) := by rintro ⟨⟩

theorem clean_bool (value : Bool) : Clean (bool value) := by rintro ⟨⟩

theorem clean_list (items : List Json) (clean : ∀ item ∈ items, Clean item) :
    Clean (list items) := by
  rintro (_ | ⟨_, holder, held, deeper⟩)
  exact clean holder held deeper

theorem clean_object (members : List (String × Json))
    (clean : ∀ entry ∈ members, Clean entry.2) : Clean (object members) := by
  rintro (_ | _ | ⟨_, entry, held, deeper⟩)
  exact clean entry held deeper

def CleanField (field : String × Option Json) : Prop := ∀ value, field.2 = some value → Clean value

theorem cleanField_map (key : String) {Value : Type} (value : Option Value) (encode : Value → Json)
    (clean : ∀ present, Clean (encode present)) : CleanField (key, value.map encode) := by
  intro encoded there
  obtain ⟨present, _, rfl⟩ := Option.map_eq_some_iff.mp there
  exact clean present

theorem cleanField_some (key : String) (value : Json) (clean : Clean value) :
    CleanField (key, some value) := by
  rintro _ ⟨⟩
  exact clean

theorem clean_written (fields : List (String × Option Json))
    (clean : ∀ field ∈ fields, CleanField field) : ∀ entry ∈ written fields, Clean entry.2 := by
  intro entry held
  obtain ⟨field, listed, inside⟩ := List.mem_flatMap.mp held
  exact clean field listed entry.2 ((mem_member_iff _ _ _).mp inside).2

end HouseStyle.Json
